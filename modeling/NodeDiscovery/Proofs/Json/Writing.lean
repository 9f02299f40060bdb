import NodeDiscovery.Json.Parser
import NodeDiscovery.Json.Writer

/-! Reading what was written. An object of texts comes back with the same members in the same order,
whatever characters the texts hold. -/
namespace NodeDiscovery.Json
open NodeDiscovery.Text (hexDigit hexValue? hexValue_hexDigit)

theorem unit_hexDigits {n : Nat} (h : n < 32) :
    unit? '0' '0' (hexDigit .lower (n / 16)) (hexDigit .lower (n % 16)) = some n := by
  have hzero : hexValue? '0' = some 0 := rfl
  have hhigh : hexValue? (hexDigit .lower (n / 16)) = some (n / 16) :=
    hexValue_hexDigit .lower (by omega)
  have hlow : hexValue? (hexDigit .lower (n % 16)) = some (n % 16) :=
    hexValue_hexDigit .lower (by omega)
  have hsum : ((0 * 16 + 0) * 16 + n / 16) * 16 + n % 16 = n := by omega
  simp only [unit?, hzero, hhigh, hlow, bind, Option.bind, pure, hsum]

theorem Piece.ofUnit_toNat {c : Char} (h : c.toNat < 32) : ofUnit c.toNat = char c := by
  rw [ofUnit, if_neg (by omega), Char.ofNat_toNat]

/-- A text that begins with the character `c`, which is followed by what `read` brings. -/
def andThen (c : Char) (read : Option (List Piece × List Char)) :
    Option (List Piece × List Char) :=
  read.map fun r => (.char c :: r.1, r.2)

theorem readText_plain {c : Char} (hquote : c ≠ '\"') (hslash : c ≠ '\\') (hc : ¬ c < ' ')
    (cs : List Char) : readText (c :: cs) = andThen c (readText cs) := by
  -- The reader has rules for quotes and backslashes before the one for all other characters.
  rw [readText]
  · rw [if_neg hc]
    cases readText cs <;> rfl
  · exact hquote
  · exact fun _ _ _ _ _ h => absurd h hslash
  · exact fun _ _ h => absurd h hslash

theorem readText_letter {letter c : Char} (hu : letter ≠ 'u') (h : unescape? letter = some c)
    (cs : List Char) : readText ('\\' :: letter :: cs) = andThen c (readText cs) := by
  rw [readText]
  · rw [h]
    cases readText cs <;> rfl
  · exact fun _ _ _ _ _ h => absurd h hu

theorem readText_control {c : Char} (h : c < ' ') (cs : List Char) :
    readText ('\\' :: 'u' :: '0' :: '0' :: hexDigit .lower (c.toNat / 16) ::
      hexDigit .lower (c.toNat % 16) :: cs) = andThen c (readText cs) := by
  have hcode : c.toNat < 32 := h
  rw [readText, unit_hexDigits hcode]
  cases readText cs with
  | none => rfl
  | some r =>
    simp only [bind, Option.bind, pure, Piece.ofUnit_toNat hcode]
    rfl

/-- A character that was written is read as itself, in each of the three ways to write one. -/
theorem readText_escape (c : Char) (cs : List Char) :
    readText (escape c ++ cs) = andThen c (readText cs) := by
  unfold escape
  split
  case h_8 hquote hslash _ _ _ _ _ =>
    split
    · next hc => exact readText_control hc cs
    · next hc => exact readText_plain hquote hslash hc cs
  all_goals exact readText_letter (by decide) rfl cs

/-- A text ends at the quote that was written behind it. -/
theorem readText_flatMap_escape (text rest : List Char) :
    readText (text.flatMap escape ++ '\"' :: rest) = some (text.map .char, rest) := by
  induction text with
  | nil => rfl
  | cons c text ih =>
    rw [List.flatMap_cons, List.append_assoc, readText_escape, ih]
    rfl

theorem joinPieces_map_char (text : List Char) : joinPieces (text.map .char) = some text := by
  induction text with
  | nil => rfl
  | cons c text ih => rw [List.map_cons, joinPieces, ih, Option.map_some]

/-- At the text `written`, whatever follows it, these tokens are read. -/
def Reads (written : List Char) (read : List Token) : Prop :=
  ∀ before rest, tokensFrom before (written ++ rest) = tokensFrom (read.reverse ++ before) rest

theorem Reads.append {x y : List Char} {read next : List Token} (hx : Reads x read)
    (hy : Reads y next) : Reads (x ++ y) (read ++ next) := by
  intro before rest
  rw [List.append_assoc, hx, hy, List.reverse_append, List.append_assoc]

theorem Reads.flatMap {α : Type} {write : α → List Char} {read : α → List Token}
    (h : ∀ a, Reads (write a) (read a)) (as : List α) :
    Reads (as.flatMap write) (as.flatMap read) := by
  induction as with
  | nil => exact fun _ _ => rfl
  | cons a as ih =>
    rw [List.flatMap_cons, List.flatMap_cons]
    exact (h a).append ih

theorem Reads.tokens_ofList {written : List Char} {read : List Token} (h : Reads written read) :
    tokens (String.ofList written) = some read := by
  have hread := h [] []
  rw [List.append_nil, List.append_nil] at hread
  rw [tokens, String.toList_ofList, hread, tokensFrom, List.reverse_reverse]

theorem tokensFrom_cons {c : Char} {rest rest' : List Char} {token : Token}
    (hspace : isSpace c = false) (h : readToken c rest = some (token, rest'))
    (before : List Token) :
    tokensFrom before (c :: rest) = tokensFrom (token :: before) rest' := by
  rw [tokensFrom, hspace, if_neg Bool.false_ne_true]
  split
  · next hnone => rw [h] at hnone; cases hnone
  · next hsome => rw [h] at hsome; cases hsome; rfl

theorem reads_punctuation {c : Char} {token : Token} (hspace : isSpace c = false)
    (h : punctuation? c = some token) : Reads [c] [token] := by
  have hread (rest : List Char) : readToken c rest = some (token, rest) := by rw [readToken, h]
  exact fun before rest => tokensFrom_cons hspace (hread rest) before

theorem readToken_quote (s : String) (rest : List Char) :
    readToken '\"' (s.toList.flatMap escape ++ '\"' :: rest) =
      some (.scalar (.text (some s)), rest) := by
  have hquote : punctuation? '\"' = none := rfl
  simp only [readToken, hquote, if_true, readText_flatMap_escape, bind, Option.bind, pure,
    joinPieces_map_char, Option.map_some, String.ofList_toList]

theorem reads_writeText (s : String) : Reads (writeText s) [.scalar (.text (some s))] := by
  intro before rest
  have hwritten : writeText s ++ rest =
      '\"' :: (s.toList.flatMap escape ++ '\"' :: rest) := by
    simp [writeText]
  rw [hwritten]
  exact tokensFrom_cons rfl (readToken_quote s rest) before

def memberTokens (member : String × String) : List Token :=
  [.scalar (.text (some member.1)), .colon, .scalar (.text (some member.2))]

theorem reads_writeMember (member : String × String) :
    Reads (writeMember member) (memberTokens member) :=
  (reads_writeText member.1).append
    ((reads_punctuation (c := ':') rfl rfl).append (reads_writeText member.2))

theorem intercalate_singleton_cons {α : Type} (sep : α) (list : List α) (lists : List (List α)) :
    [sep].intercalate (list :: lists) = list ++ lists.flatMap (sep :: ·) := by
  induction lists generalizing list with
  | nil => simp
  | cons next lists ih =>
    rw [List.intercalate_cons_cons, ih, List.flatMap_cons]
    simp

def objectTokens : List (String × String) → List Token
  | [] => [.openObject, .closeObject]
  | member :: members =>
    .openObject :: (memberTokens member ++ members.flatMap (.comma :: memberTokens ·)) ++
      [.closeObject]

theorem tokens_writeObject (members : List (String × String)) :
    tokens (writeObject members) = some (objectTokens members) := by
  have hopen : Reads ['\x7b'] [.openObject] := reads_punctuation rfl rfl
  have hclose : Reads ['\x7d'] [.closeObject] := reads_punctuation rfl rfl
  have hcomma : Reads [','] [.comma] := reads_punctuation rfl rfl
  refine Reads.tokens_ofList ?_
  cases members with
  | nil => exact hopen.append hclose
  | cons member members =>
    have hmore : Reads (members.flatMap (',' :: writeMember ·))
        (members.flatMap (.comma :: memberTokens ·)) :=
      .flatMap (fun next => hcomma.append (reads_writeMember next)) members
    rw [List.map_cons, intercalate_singleton_cons, List.flatMap_map]
    exact (hopen.append ((reads_writeMember member).append hmore)).append hclose

/-- A member whose value is a text, as the reader of objects has it. -/
def textMember (member : String × String) : Option String × Json :=
  (some member.1, .text (some member.2))

theorem build_members (before : List (Option String × Json)) (member : String × String)
    (members : List (String × String)) :
    build (some (.text (some member.2))) [.object before (some member.1)]
        (members.flatMap (.comma :: memberTokens ·) ++ [.closeObject]) =
      some (.object (before.reverse ++ (member :: members).map textMember)) := by
  -- The members so far stand in the bracket in reverse, so they are general in the induction.
  induction members generalizing before member with
  | nil => simp [build, textMember]
  | cons next members ih =>
    rw [List.flatMap_cons, memberTokens]
    simp only [List.cons_append, List.nil_append, build]
    rw [ih]
    simp [textMember]

theorem build_objectTokens (members : List (String × String)) :
    build none [] (objectTokens members) = some (.object (members.map textMember)) := by
  cases members with
  | nil => rfl
  | cons member members => exact build_members [] member members

/-- What was written as an object of texts is read as that object. -/
theorem parse_writeObject (members : List (String × String)) :
    parse? (writeObject members) = some (.object (members.map textMember)) := by
  rw [parse?, tokens_writeObject]
  exact build_objectTokens members

theorem mapM_map_eq_some {α β : Type} {write : α → β} {read : β → Option α}
    (h : ∀ a, read (write a) = some a) (as : List α) : (as.map write).mapM read = some as := by
  induction as with
  | nil => rfl
  | cons a as ih =>
    rw [List.map_cons, List.mapM_cons, ih, h]
    rfl

/-! The characters of what is written -/

theorem printed_hexDigit {n : Nat} (h : n < 16) :
    ' ' ≤ hexDigit .lower n ∧ hexDigit .lower n ≠ '\x7f' := by
  have hall : ∀ m : Fin 16, ' ' ≤ hexDigit .lower m ∧ hexDigit .lower m ≠ '\x7f' := by decide
  exact hall ⟨n, h⟩

/-- No control character is written as it is but DEL, which comes from nothing else. -/
theorem of_mem_escape (c : Char) : ∀ d ∈ escape c, ' ' ≤ d ∧ (d = '\x7f' → c = '\x7f') := by
  unfold escape
  split
  case h_8 =>
    split
    · next hc =>
      have hcode : c.toNat < 32 := hc
      obtain ⟨hhigh, hhigh'⟩ := printed_hexDigit (n := c.toNat / 16) (by omega)
      obtain ⟨hlow, hlow'⟩ := printed_hexDigit (n := c.toNat % 16) (by omega)
      simp [hhigh, hhigh', hlow, hlow']
    · next hc =>
      intro d hd
      obtain rfl := List.mem_singleton.mp hd
      exact ⟨Char.not_lt.mp hc, id⟩
  all_goals simp

/-- What holds of the punctuation holds of all characters of an object if and only if it holds of
those that its names and values are written with. -/
theorem forall_mem_writeObject {p : Char → Prop} (hp : ∀ c ∈ "\x7b\x7d\":,".toList, p c)
    {members : List (String × String)} :
    (∀ d ∈ (writeObject members).toList, p d) ↔
      ∀ member ∈ members, ∀ c ∈ member.1.toList ++ member.2.toList, ∀ d ∈ escape c, p d := by
  have hquote : p '\"' := hp _ (by decide)
  have hcomma : p ',' := hp _ (by decide)
  have hmember (member : String × String) : (∀ d ∈ writeMember member, p d) ↔
      ∀ c ∈ member.1.toList ++ member.2.toList, ∀ d ∈ escape c, p d := by
    have hcolon : p ':' := hp _ (by decide)
    have htext (s : String) :
        (∀ d ∈ writeText s, p d) ↔ ∀ c ∈ s.toList, ∀ d ∈ escape c, p d := by
      rw [writeText, List.cons_append, List.forall_mem_cons, List.forall_mem_append,
        List.forall_mem_singleton, List.forall_mem_flatMap, and_iff_right hquote,
        and_iff_left hquote]
    rw [writeMember, List.forall_mem_append, List.forall_mem_cons, htext, htext,
      and_iff_right hcolon, List.forall_mem_append]
  rw [writeObject, String.toList_ofList, List.cons_append, List.forall_mem_cons,
    List.forall_mem_append, List.forall_mem_singleton, and_iff_right (hp _ (by decide)),
    and_iff_left (hp _ (by decide))]
  cases members with
  | nil => simp
  | cons member members =>
    rw [List.map_cons, intercalate_singleton_cons, List.forall_mem_append, hmember,
      List.flatMap_map, List.forall_mem_flatMap, List.forall_mem_cons]
    simp only [List.forall_mem_cons, hcomma, true_and, hmember]

end NodeDiscovery.Json
