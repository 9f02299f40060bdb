import NodeDiscovery.Config.Basic
import NodeDiscovery.Config.Token

/-! Reading a configuration from its text, one `key=value` pair after the other. -/
namespace NodeDiscovery.Config
open NodeDiscovery.Text

/-- Reads one pair. Blanks around the equals sign have no meaning. -/
def readPair (cs : List Char) : Except SyntaxError ((String × String) × List Char) := do
  let (key, rest) ← readKey cs
  match skipBlanks rest with
  | '=' :: rest =>
    let (value, rest) ← readValue key (rest.head?.any isBlank) (skipBlanks rest)
    return ((key, value), rest)
  | _ => throw (.missingEquals key)

/-- A pair that was read is a key, an equals sign and a value. -/
theorem readPair_eq_ok {cs rest : List Char} {key value : String}
    (h : readPair cs = .ok ((key, value), rest)) :
    ∃ afterKey afterSign, readKey cs = .ok (key, afterKey) ∧
      skipBlanks afterKey = '=' :: afterSign ∧
      readValue key (afterSign.head?.any isBlank) (skipBlanks afterSign) = .ok (value, rest) := by
  unfold readPair at h
  cases hk : readKey cs with
  | error e => simp [hk, bind, Except.bind] at h
  | ok p =>
    obtain ⟨k, afterKey⟩ := p
    simp only [hk, bind, Except.bind] at h
    split at h
    · next afterSign hs =>
      cases hv : readValue k (afterSign.head?.any isBlank) (skipBlanks afterSign) with
      | error e => simp [hv] at h
      | ok q =>
        obtain ⟨v, r⟩ := q
        simp only [hv, pure, Except.pure, Except.ok.injEq, Prod.mk.injEq] at h
        obtain ⟨⟨rfl, rfl⟩, rfl⟩ := h
        exact ⟨afterKey, afterSign, rfl, hs, hv⟩
    · simp [throw, throwThe, MonadExceptOf.throw] at h

theorem readPair_length {cs rest : List Char} {pair : String × String}
    (h : readPair cs = .ok (pair, rest)) : rest.length < cs.length := by
  obtain ⟨afterKey, afterSign, hk, hs, hv⟩ := readPair_eq_ok h
  have h1 := readKey_length hk
  have h2 := skipBlanks_length_le afterKey
  have h3 := skipBlanks_length_le afterSign
  have h4 := readValue_length hv
  rw [hs, List.length_cons] at h2
  omega

/-- Reads the pairs of a text into a configuration that holds those before them. -/
def readPairs (c : Config) (cs : List Char) : Except SyntaxError Config :=
  if (skipBlanks cs).isEmpty then .ok c
  else match _h : readPair (skipBlanks cs) with
    | .error e => .error e
    | .ok ((key, value), rest) =>
      if c.contains key then .error (.duplicateKey key)
      else readPairs (c.insert key value) rest
termination_by cs.length
decreasing_by
  have h1 := readPair_length _h
  have h2 := skipBlanks_length_le cs
  omega

/-- The configuration a text stands for. -/
def parse (s : String) : Except SyntaxError Config := readPairs .empty s.toList

end NodeDiscovery.Config
