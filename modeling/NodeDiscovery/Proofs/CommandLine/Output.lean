import NodeDiscovery.Provider.CommandLine
import Mathlib.Data.List.Basic

/-! What is read from the output of a command line. Each line is read on its own, from its bytes up
to its address, and the addresses, one on each line, are again such an output. -/
namespace NodeDiscovery

namespace Text

theorem trim_dropReturn (line : List Char) : trim (dropReturn line) = trim line := by
  unfold dropReturn
  split
  · next hreturn =>
    have hline : line.dropLast ++ ['\r'] = line := List.dropLast_append_getLast? _ hreturn
    rw [← trim_append_blanks (w := ['\r']) (by decide) line.dropLast, hline]
  · rfl

/-- Once its blanks are gone, it does not matter how a line was ended. -/
theorem trimmedLines_eq (cs : List Char) :
    trimmedLines cs = ((splitAt '\n' cs).map trim).filter (· ≠ []) := by
  obtain ⟨init, last, hpieces⟩ : ∃ init last, splitAt '\n' cs = init ++ [last] :=
    ⟨_, _, (List.dropLast_concat_getLast (splitAt_ne_nil '\n' cs)).symm⟩
  have hinit : (init.map dropReturn).map trim = init.map trim := by
    rw [List.map_map]
    exact List.map_congr_left fun line _ => trim_dropReturn line
  rw [trimmedLines, lines, hpieces]
  simp only [List.dropLast_concat, List.getLast?_concat, List.map_append, hinit, List.filter_append]
  cases last with
  | nil => rfl
  | cons c last => rfl

theorem trimmedLines_append (x y : List Char) :
    trimmedLines (x ++ '\n' :: y) = trimmedLines x ++ trimmedLines y := by
  rw [trimmedLines_eq, splitAt_append, List.map_append, List.filter_append, ← trimmedLines_eq,
    ← trimmedLines_eq]

structure IsTrimmed (line : List Char) : Prop where
  ne_nil : line ≠ []
  single : '\n' ∉ line
  head : ∀ c ∈ line.head?, isBlank c = false
  last : ∀ c ∈ line.getLast?, isBlank c = false

theorem isTrimmed_of_mem {cs line : List Char} (h : line ∈ trimmedLines cs) : IsTrimmed line := by
  rw [trimmedLines_eq, List.mem_filter, List.mem_map] at h
  obtain ⟨⟨piece, hpiece, htrim⟩, hne⟩ := h
  obtain ⟨w, w', -, -, hpads, hhead, hlast⟩ := trim_eq_iff_pads.mp htrim
  refine ⟨of_decide_eq_true hne, fun hmem => not_mem_of_mem_splitAt hpiece ?_, hhead, hlast⟩
  rw [hpads]
  simp [hmem]

theorem trimmedLines_intercalate {lines : List (List Char)} (h : ∀ line ∈ lines, IsTrimmed line) :
    trimmedLines (['\n'].intercalate lines) = lines := by
  have htrim : lines.map trim = lines := by
    calc
      lines.map trim = lines.map id := List.map_congr_left fun line hline =>
        trim_eq_self (h line hline).head (h line hline).last
      _ = lines := List.map_id _
  cases lines with
  | nil => rfl
  | cons line lines =>
    have hne : (line :: lines).filter (· ≠ []) = line :: lines :=
      List.filter_eq_self.mpr fun line hline => decide_eq_true (h line hline).ne_nil
    rw [trimmedLines_eq, splitAt_intercalate fun line hline => (h line hline).single, htrim, hne]

end Text

namespace CommandLine

theorem addresses_append (a b : List UInt8) :
    addresses (a ++ 0x0a :: b) = addresses a ++ addresses b := by
  have hfeed : Text.Utf8.decode (a ++ 0x0a :: b) =
      Text.Utf8.decode a ++ '\n' :: Text.Utf8.decode b :=
    Text.Utf8.decode_append_ascii (by decide) a b
  rw [addresses, hfeed, Text.trimmedLines_append, List.map_append]
  rfl

/-- What is found on both sides of a line feed is found on each side alone. No address is empty,
holds a line feed, or has a blank at one of its ends. So the addresses found, written one below the
other, are found again. -/
theorem addresses_line_by_line :
    (∀ a b : List UInt8, addresses (a ++ 0x0a :: b) = addresses a ++ addresses b) ∧
    ∀ output : List UInt8,
      (∀ address ∈ addresses output, address ≠ "" ∧ '\n' ∉ address.toList ∧
        (∀ c ∈ address.toList.head?, Text.isBlank c = false) ∧
        ∀ c ∈ address.toList.getLast?, Text.isBlank c = false) ∧
      addresses (Text.Utf8.encode ("\n".intercalate (addresses output)).toList) =
        addresses output := by
  refine ⟨addresses_append, fun output => ⟨fun address h => ?_, ?_⟩⟩
  · obtain ⟨line, hline, rfl⟩ := List.mem_map.mp h
    have htrimmed := Text.isTrimmed_of_mem hline
    rw [String.toList_ofList]
    refine ⟨fun hempty => htrimmed.ne_nil ?_, htrimmed.single, htrimmed.head, htrimmed.last⟩
    simpa using hempty
  · have hlines : (addresses output).map String.toList =
        Text.trimmedLines (Text.Utf8.decode output) := by
      simp [addresses]
    rw [addresses, Text.Utf8.decode_encode, String.toList_intercalate, hlines]
    exact congrArg (List.map String.ofList)
      (Text.trimmedLines_intercalate fun line => Text.isTrimmed_of_mem)

/-- A carriage return before a line feed, an empty line, and a byte that begins no character. -/
theorem addresses_line_by_line_sample :
    let output : List UInt8 := [0x31, 0x0d] ++ 0x0a :: [0x0a, 0x20, 0xff, 0x09]
    let found := ["1", "\ufffd"]
    addresses output = found ∧ "\ufffd" ∈ addresses output ∧ '\n' ∉ "\ufffd".toList ∧
      addresses (Text.Utf8.encode ("\n".intercalate found).toList) = found := by
  intro output found
  have hfound : addresses output = found := by
    rw [addresses_line_by_line.1]
    decide +kernel
  have hmem : "\ufffd" ∈ addresses output := by
    rw [hfound]
    decide
  obtain ⟨hclean, hagain⟩ := addresses_line_by_line.2 output
  rw [hfound] at hagain
  exact ⟨hfound, hmem, (hclean _ hmem).2.1, hagain⟩

end CommandLine
end NodeDiscovery
