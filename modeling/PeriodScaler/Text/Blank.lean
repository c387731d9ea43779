/-!
# Blank characters and trimming

The White_Space property of Unicode and the two-sided trim that reads user input. A text is
handled as its list of characters; `trimmed` is the string form.

Model of the library's `trim`, `split`, `split_once`, `strip_prefix`, `to_ascii_uppercase`,
`to_ascii_lowercase` and `eq_ignore_ascii_case`.

* `trim_eq_self_of_not_blank`: a text whose ends are not blank is left alone.
-/

namespace PeriodScaler.Text

/-- The characters with the Unicode property White_Space. -/
def isBlank (c : Char) : Bool :=
  let n := c.toNat
  (9 ≤ n && n ≤ 13) || n == 0x20 || n == 0x85 || n == 0xA0 || n == 0x1680 ||
    (0x2000 ≤ n && n ≤ 0x200A) || n == 0x2028 || n == 0x2029 || n == 0x202F || n == 0x205F ||
    n == 0x3000

/-- A text without the blanks it starts with. -/
def trimStart (cs : List Char) : List Char :=
  cs.dropWhile isBlank

/-- A text without the blanks it ends with. -/
def trimEnd (cs : List Char) : List Char :=
  (cs.reverse.dropWhile isBlank).reverse

/-- A text without the blanks around it. -/
def trim (cs : List Char) : List Char :=
  trimEnd (trimStart cs)

/-- The string form of `trim`. -/
def trimmed (s : String) : String :=
  String.ofList (trim s.toList)

/-- A text of blanks only, the empty one included. -/
def isAllBlank (s : String) : Bool :=
  s.toList.all isBlank

/-- Lower-case ASCII letters in place of the upper-case ones; other characters stay. -/
def lowerAscii (s : String) : String :=
  String.ofList (s.toList.map Char.toLower)

/-- Upper-case ASCII letters in place of the lower-case ones; other characters stay. -/
def upperAscii (s : String) : String :=
  String.ofList (s.toList.map Char.toUpper)

/-- Equality of two texts up to the case of ASCII letters. -/
def sameAscii (s t : String) : Bool :=
  lowerAscii s == lowerAscii t

/-- What follows `lead` in a text that starts with it. -/
def dropLead? (lead cs : List Char) : Option (List Char) :=
  if lead.isPrefixOf cs then some (cs.drop lead.length) else none

/-- The parts of a text before and after the first occurrence of `sep`. -/
def splitOnce? (sep : List Char) : List Char → Option (List Char × List Char)
  | [] => if sep.isEmpty then some ([], []) else none
  | c :: cs =>
    if sep.isPrefixOf (c :: cs) then some ([], (c :: cs).drop sep.length)
    else (splitOnce? sep cs).map fun (before, after) => (c :: before, after)

/-- Cuts a text at every occurrence of `sep`; `skip` characters of an occurrence are still to be
passed over. -/
def piecesAfter (sep : List Char) : Nat → List Char → List (List Char)
  | _, [] => [[]]
  | skip + 1, _ :: cs => piecesAfter sep skip cs
  | 0, c :: cs =>
    if !sep.isEmpty && sep.isPrefixOf (c :: cs) then [] :: piecesAfter sep (sep.length - 1) cs
    else
      match piecesAfter sep 0 cs with
      | [] => [[c]]
      | piece :: rest => (c :: piece) :: rest

/-- The pieces of a text between the occurrences of `sep`, found from the left. -/
def pieces (sep cs : List Char) : List (List Char) :=
  piecesAfter sep 0 cs

@[simp] theorem trimStart_nil : trimStart [] = [] := rfl

theorem trimStart_cons {c : Char} (cs : List Char) (h : isBlank c = false) :
    trimStart (c :: cs) = c :: cs := by
  simp [trimStart, h]

/-- A text that neither starts nor ends with a blank is its own trim. -/
theorem trim_eq_self_of_not_blank {cs : List Char} (h : ∀ c ∈ cs, isBlank c = false) :
    trim cs = cs := by
  have hs : trimStart cs = cs := by
    cases cs with
    | nil => rfl
    | cons c r => exact trimStart_cons r (h c (by simp))
  have he : trimEnd cs = cs := by
    unfold trimEnd
    have : trimStart cs.reverse = cs.reverse := by
      cases hr : cs.reverse with
      | nil => rfl
      | cons c r => exact trimStart_cons r (h c (by rw [← List.mem_reverse, hr]; simp))
    have h' : cs.reverse.dropWhile isBlank = cs.reverse := this
    rw [h', List.reverse_reverse]
  rw [trim, hs, he]

end PeriodScaler.Text
