/-!
# Cutting text at delimiters

Connection strings, key/value pairs, paths and option lists are all read by cutting a list of
characters at the first, the last or every occurrence of a delimiter. Each cut loses exactly the
delimiter: `cutFirst_eq`, `cutLast_eq` and `join_pieces` rebuild the text.
-/

namespace Fixtures.Text

/-- The text before and after the first `d`, if there is one. -/
def cutFirst (d : Char) : List Char → Option (List Char × List Char)
  | [] => none
  | c :: rest =>
    if c = d then some ([], rest)
    else (cutFirst d rest).map fun (before, after) => (c :: before, after)

/-- The text before and after the last `d`, if there is one. -/
def cutLast (d : Char) : List Char → Option (List Char × List Char)
  | [] => none
  | c :: rest =>
    match cutLast d rest with
    | some (before, after) => some (c :: before, after)
    | none => if c = d then some ([], rest) else none

/-- The rest of the text after `lead`, if the text starts with it. -/
def dropLead? : (lead text : List Char) → Option (List Char)
  | [], text => some text
  | _ :: _, [] => none
  | l :: lead, c :: text => if l = c then dropLead? lead text else none

/-- The text before and after the first occurrence of the word `w`, if there is one. -/
def cutWord (w : List Char) : List Char → Option (List Char × List Char)
  | [] => (dropLead? w []).map ([], ·)
  | c :: rest =>
    match dropLead? w (c :: rest) with
    | some after => some ([], after)
    | none => (cutWord w rest).map fun (before, after) => (c :: before, after)

/-- The pieces between the occurrences of `d`; a text without `d` is one piece. -/
def pieces (d : Char) : List Char → List (List Char)
  | [] => [[]]
  | c :: rest =>
    if c = d then [] :: pieces d rest
    else
      match pieces d rest with
      | [] => [[c]]
      | first :: others => (c :: first) :: others

/-- The texts with `sep` between each two of them. -/
def join (sep : List Char) : List (List Char) → List Char
  | [] => []
  | [piece] => piece
  | piece :: others => piece ++ sep ++ join sep others

/-- The lines of a text: a line feed ends a line, a carriage return before it belongs to the
ending, and a last line without an ending counts only if it is not empty. -/
def lines (text : List Char) : List (List Char) :=
  let dropReturn (line : List Char) : List Char :=
    if line.getLast? = some '\r' then line.dropLast else line
  match (pieces '\n' text).reverse with
  | [] => []
  | last :: ended =>
    let ended := ended.reverse.map dropReturn
    if last.isEmpty then ended else ended ++ [last]

/-! ## Nothing but the delimiter is lost -/

theorem cutFirst_eq {d : Char} {text before after : List Char}
    (h : cutFirst d text = some (before, after)) : text = before ++ d :: after := by
  induction text generalizing before after with
  | nil => simp [cutFirst] at h
  | cons c rest ih =>
    rw [cutFirst] at h
    split at h
    · next hc => cases h; simp [hc]
    · obtain ⟨⟨b, a⟩, hr, hp⟩ := Option.map_eq_some_iff.1 h
      cases hp
      simp [ih hr]

theorem not_mem_of_cutFirst {d : Char} {text before after : List Char}
    (h : cutFirst d text = some (before, after)) : d ∉ before := by
  induction text generalizing before after with
  | nil => simp [cutFirst] at h
  | cons c rest ih =>
    rw [cutFirst] at h
    split at h
    · cases h; simp
    · next hc =>
      obtain ⟨⟨b, a⟩, hr, hp⟩ := Option.map_eq_some_iff.1 h
      cases hp
      simp [ih hr, Ne.symm hc]

theorem cutFirst_eq_none {d : Char} {text : List Char} : cutFirst d text = none ↔ d ∉ text := by
  induction text with
  | nil => simp [cutFirst]
  | cons c rest ih =>
    by_cases hc : c = d
    · simp [cutFirst, hc]
    · simp [cutFirst, hc, ih, Ne.symm hc]

theorem cutLast_eq {d : Char} {text before after : List Char}
    (h : cutLast d text = some (before, after)) : text = before ++ d :: after := by
  induction text generalizing before after with
  | nil => simp [cutLast] at h
  | cons c rest ih =>
    rw [cutLast] at h
    split at h
    · next b a hr => cases h; simp [← ih hr]
    · split at h
      · next hc => cases h; simp [hc]
      · cases h

theorem cutLast_eq_none {d : Char} {text : List Char} : cutLast d text = none ↔ d ∉ text := by
  induction text with
  | nil => simp [cutLast]
  | cons c rest ih =>
    rw [cutLast]
    split
    · next b a hr =>
      have hm : d ∈ rest := by simp [cutLast_eq hr]
      simp [hm]
    · next hr =>
      by_cases hc : c = d
      · simp [hc]
      · simp [hc, ih.1 hr, Ne.symm hc]

theorem not_mem_of_cutLast {d : Char} {text before after : List Char}
    (h : cutLast d text = some (before, after)) : d ∉ after := by
  induction text generalizing before after with
  | nil => simp [cutLast] at h
  | cons c rest ih =>
    rw [cutLast] at h
    split at h
    · next b a hr => cases h; exact ih hr
    · next hr =>
      split at h
      · cases h; exact cutLast_eq_none.1 hr
      · cases h

theorem pieces_ne_nil (d : Char) (text : List Char) : pieces d text ≠ [] := by
  cases text with
  | nil => simp [pieces]
  | cons c rest =>
    by_cases hc : c = d
    · simp [pieces, hc]
    · simp only [pieces, hc, if_false]
      split <;> simp

theorem join_pieces (d : Char) (text : List Char) : join [d] (pieces d text) = text := by
  induction text with
  | nil => rfl
  | cons c rest ih =>
    by_cases hc : c = d
    · simp only [pieces, hc, if_true]
      cases hp : pieces d rest with
      | nil => exact absurd hp (pieces_ne_nil d rest)
      | cons p ps => simp [join, ← hp, ih]
    · simp only [pieces, hc, if_false]
      cases hp : pieces d rest with
      | nil => exact absurd hp (pieces_ne_nil d rest)
      | cons p ps =>
        rw [hp] at ih
        cases ps with
        | nil => simpa [join] using ih
        | cons q qs => simpa [join] using ih

end Fixtures.Text
