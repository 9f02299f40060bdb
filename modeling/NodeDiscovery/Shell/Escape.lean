import NodeDiscovery.Shell.Number

/-! Backslash escapes in what is written. -/
namespace NodeDiscovery.Shell
open NodeDiscovery.Text (digitValue)

def isOctal (c : Char) : Bool := '0' ≤ c && c ≤ '7'

/-- The byte that at most `count` octal digits stand for. -/
def readOctal : (count n : Nat) → Text → Char × Text
  | count + 1, n, c :: rest =>
    if isOctal c then readOctal count (8 * n + digitValue c) rest
    else (Char.ofNat (n % 256), c :: rest)
  | _, n, rest => (Char.ofNat (n % 256), rest)

theorem readOctal_length (count n : Nat) (t : Text) :
    (readOctal count n t).2.length ≤ t.length := by
  fun_induction readOctal count n t with
  | case1 _ _ _ _ _ ih => exact Nat.le_succ_of_le ih
  | case2 => exact Nat.le_refl _
  | case3 => exact Nat.le_refl _

/-- What follows a backslash. An escape that means nothing keeps its backslash. -/
def readEscape : Text → Char × Text
  | [] => ('\\', [])
  | c :: rest =>
    match c with
    | '\\' => ('\\', rest)
    | 'a' => ('\x07', rest)
    | 'b' => ('\x08', rest)
    | 'e' => ('\x1b', rest)
    | 'f' => ('\x0c', rest)
    | 'n' => ('\n', rest)
    | 'r' => ('\r', rest)
    | 't' => ('\t', rest)
    | 'v' => ('\x0b', rest)
    | c => if isOctal c then readOctal 3 0 (c :: rest) else ('\\', c :: rest)

theorem readEscape_length (t : Text) : (readEscape t).2.length ≤ t.length := by
  unfold readEscape
  split
  · exact Nat.le_refl _
  · split
    all_goals first
      | exact Nat.le_succ _
      | (split
         · exact readOctal_length ..
         · exact Nat.le_refl _)

/-- Text with its escapes resolved. Octal numbers may have a zero in front of their three digits.
The flag says that `\c` ended the text, and all that is to come. -/
def unescape : Text → Text × Bool
  | [] => ([], false)
  | '\\' :: 'c' :: _ => ([], true)
  | '\\' :: '0' :: rest =>
    let (t, ended) := unescape (readOctal 3 0 rest).2
    ((readOctal 3 0 rest).1 :: t, ended)
  | '\\' :: rest =>
    let (t, ended) := unescape (readEscape rest).2
    ((readEscape rest).1 :: t, ended)
  | c :: rest =>
    let (t, ended) := unescape rest
    (c :: t, ended)
termination_by t => t.length
decreasing_by
  · have := readOctal_length 3 0 rest
    simp only [List.length_cons]; omega
  · have := readEscape_length rest
    simp only [List.length_cons]; omega
  · simp

/-- What `echo` writes. A first argument `-n` suppresses the line end. -/
def echo (arguments : List Text) : Text :=
  let (arguments, lineEnd) := match arguments with
    | ['-', 'n'] :: rest => (rest, [])
    | arguments => (arguments, ['\n'])
  let (t, ended) := unescape ([' '].intercalate arguments)
  if ended then t else t ++ lineEnd

end NodeDiscovery.Shell
