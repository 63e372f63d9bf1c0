import Fixtures.Toml.Document

/-!
# Tables without the text of their strings

The building of tables looks at keys, at places and at the kinds of items, and not at the text of a string. `hushed`
takes this text away, and every step of the building comes to the same with and without it (`build_hushed`).
-/

namespace Fixtures.Toml

mutual

/-- An item with empty strings. -/
def Item.hushed : Item → Item
  | .string _ span => .string "" span
  | .integer n span => .integer n span
  | .float x span => .float x span
  | .boolean b span => .boolean b span
  | .dateTime span => .dateTime span
  | .array items span => .array (hushedItems items) span
  | .table form members span => .table form (hushedMembers members) span
  | .tables items span => .tables (hushedItems items) span

/-- Items with empty strings. -/
def hushedItems : List Item → List Item
  | [] => []
  | item :: items => item.hushed :: hushedItems items

/-- Members with empty strings. -/
def hushedMembers : List (Key × Item) → List (Key × Item)
  | [] => []
  | (key, item) :: members => (key, item.hushed) :: hushedMembers members

end

theorem hushedItems_eq (items : List Item) : hushedItems items = items.map Item.hushed := by
  induction items with
  | nil => rfl
  | cons item items ih => rw [hushedItems, ih, List.map_cons]

theorem hushedMembers_eq (members : Members) : hushedMembers members = members.map fun m => (m.1, m.2.hushed) := by
  induction members with
  | nil => rfl
  | cons m members ih => rw [hushedMembers, ih, List.map_cons]

theorem Item.span?_hushed (item : Item) : item.hushed.span? = item.span? := by
  cases item <;> rfl

section Members

variable (members : Members) (key : Key) (item : Item) (name : String)

theorem hushedMembers_append (more : Members) :
    hushedMembers (members ++ more) = hushedMembers members ++ hushedMembers more := by
  rw [hushedMembers_eq, hushedMembers_eq, hushedMembers_eq, List.map_append]

theorem hushedMembers_snoc :
    hushedMembers (members ++ [(key, item)]) = hushedMembers members ++ [(key, item.hushed)] :=
  hushedMembers_append members [(key, item)]

theorem find?_hushed : Members.find? (hushedMembers members) name = (members.find? name).map Item.hushed := by
  rw [hushedMembers_eq, Members.find?, Members.find?, List.find?_map, Option.map_map, Option.map_map]
  rfl

theorem put_hushed : Members.put (hushedMembers members) key item.hushed = hushedMembers (members.put key item) := by
  have any : (hushedMembers members).any (·.1.name = key.name) = members.any (·.1.name = key.name) := by
    rw [hushedMembers_eq, List.any_map]
    rfl
  rw [Members.put, Members.put, any]
  split
  · rw [hushedMembers_eq, hushedMembers_eq, List.map_map, List.map_map]
    refine List.map_congr_left fun m _ => ?_
    dsimp only [Function.comp]
    split <;> rfl
  · rw [hushedMembers_append]
    rfl

theorem remove_hushed : Members.remove (hushedMembers members) name = hushedMembers (members.remove name) := by
  rw [hushedMembers_eq, hushedMembers_eq, Members.remove, Members.remove, List.filter_map]
  rfl

end Members

/-! ## Tables between braces -/

theorem addInline_hushed (key : Key) (item : Item) (done path : List Key) (isDotted : Bool) (members : Members) :
    addInline key item.hushed done path isDotted (hushedMembers members) =
      (addInline key item done path isDotted members).map hushedMembers := by
  -- Along the path, with whatever the tables on the way hold.
  induction path generalizing done isDotted members with
  | nil =>
    rw [addInline, addInline, find?_hushed, Option.isSome_map]
    split
    · rfl
    · rw [Except.map, hushedMembers_append]
      rfl
  | cons first path ih =>
    rw [addInline, addInline, find?_hushed]
    rcases members.find? first.name with _ | found
    · have made := ih (done ++ [first]) true []
      rw [hushedMembers] at made
      rw [Option.map_none]
      dsimp only
      rw [made]
      cases addInline key item (done ++ [first]) path true [] with
      | error e => rfl
      | ok inner =>
        refine congrArg Except.ok ?_
        rw [hushedMembers_append]
        rfl
    · rw [Option.map_some]
      cases found
      case table form inner span =>
        rw [Item.hushed]
        dsimp only
        split
        · rw [ih]
          cases addInline key item (done ++ [first]) path (form = .dotted) inner with
          | error e => rfl
          | ok inner =>
            refine congrArg Except.ok ?_
            rw [← put_hushed]
            rfl
        · rfl
      all_goals rfl

/-- Adding a key and its item to a table between braces. -/
def addPair (members : Members) (pair : (List Key × Key) × Item) : Except KeyFault Members :=
  addInline pair.1.2 pair.2 [] pair.1.1 false members

/-- Pairs of one table between braces that have the same keys and, strings apart, the same items make the same
table, or the same fault. -/
theorem addPairs_hushed (pairs : List ((List Key × Key) × Item)) (members : Members) :
    (pairs.map fun p => (p.1, p.2.hushed)).foldlM addPair (hushedMembers members) =
      (pairs.foldlM addPair members).map hushedMembers := by
  induction pairs generalizing members with
  | nil => rfl
  | cons pair pairs ih =>
    rw [List.map_cons, List.foldlM_cons, List.foldlM_cons, addPair, addPair, addInline_hushed]
    cases addInline pair.1.2 pair.2 [] pair.1.1 false members with
    | error e => rfl
    | ok next => exact ih next

/-! ## Tables with headers -/

namespace Document

/-- What a change leaves, with empty strings. -/
def hushedChange (r : Except KeyFault (Members × Option Span)) : Except KeyFault (Members × Option Span) :=
  r.map fun p => (hushedMembers p.1, p.2)

/-- One change does to members with empty strings what the other one does to the members. -/
def Hushes (quiet change : Change) : Prop :=
  ∀ form members span, quiet form (hushedMembers members) span = hushedChange (change form members span)

theorem within_hushed {quiet change : Change} (h : Hushes quiet change) (isDotted : Bool) (done path : List Key) :
    Hushes (within isDotted quiet done path) (within isDotted change done path) := by
  -- Along the path: strings are hushed inside the table that is found, and lookups and refusals do not see them.
  induction path generalizing done with
  | nil => exact h
  | cons key path ih =>
    intro form members span
    rw [within, within, find?_hushed]
    rcases Members.find? members key.name with _ | found
    · have made := ih (done ++ [key]) (if isDotted then .dotted else .implied) [] none
      rw [hushedMembers] at made
      rw [Option.map_none]
      dsimp only
      rw [made]
      rcases within isDotted change (done ++ [key]) path _ [] none with e | ⟨inner, place⟩
      · rfl
      · refine congrArg Except.ok (Prod.ext ?_ rfl)
        exact (hushedMembers_snoc members key (.table _ inner place)).symm
    · rw [Option.map_some]
      cases found
      case table form inner place =>
        rw [Item.hushed]
        dsimp only
        split
        · rfl
        · split
          · rfl
          · rw [ih]
            rcases within isDotted change (done ++ [key]) path form inner place with e | ⟨inner, place⟩
            · rfl
            · refine congrArg Except.ok (Prod.ext ?_ rfl)
              exact put_hushed members key (.table form inner place)
      case tables items place =>
        rw [Item.hushed]
        rcases items with _ | ⟨first, others⟩
        · rfl
        · cases first
          case table form inner innerPlace =>
            rw [hushedItems, Item.hushed]
            dsimp only
            rw [ih]
            rcases within isDotted change (done ++ [key]) path form inner innerPlace with e | ⟨inner, innerPlace⟩
            · rfl
            · refine congrArg Except.ok (Prod.ext ?_ rfl)
              exact put_hushed members key (.tables (.table form inner innerPlace :: others) place)
          all_goals rfl
      all_goals rfl

theorem addItem_hushed (header : List Key) (isReached : Bool) (key : Key) (item : Item) :
    Hushes (addItem header isReached key item.hushed) (addItem header isReached key item) := by
  intro form members span
  rw [addItem, addItem, find?_hushed, Option.isSome_map]
  split
  · rfl
  · split
    · rfl
    · refine congrArg Except.ok (Prod.ext ?_ rfl)
      exact (hushedMembers_snoc members key item).symm

theorem grown_hushed (span : Option Span) (item : Item) : grown span item.hushed = grown span item := by
  unfold grown
  rw [item.span?_hushed]

theorem assign_hushed (header path : List Key) (key : Key) (item : Item) :
    Hushes (assign header path key item.hushed) (assign header path key item) := by
  intro form members span
  rw [assign, assign, grown_hushed]
  exact within_hushed (addItem_hushed _ _ _ _) true [] path form members _

theorem openTable_hushed (path : List Key) (key : Key) (place : Span) :
    Hushes (openTable path key place) (openTable path key place) := by
  intro form members span
  rw [openTable, openTable, find?_hushed]
  rcases Members.find? members key.name with _ | found
  · refine congrArg Except.ok (Prod.ext ?_ rfl)
    exact (hushedMembers_snoc members key (.table .header [] (some place))).symm
  · rw [Option.map_some]
    cases found
    case table form inner _ =>
      cases form
      case implied =>
        refine congrArg Except.ok (Prod.ext ?_ rfl)
        dsimp only
        rw [remove_hushed, hushedMembers_append]
        rfl
      all_goals rfl
    all_goals rfl

theorem openNext_hushed (path : List Key) (key : Key) (place : Span) :
    Hushes (openNext path key place) (openNext path key place) := by
  intro form members span
  rw [openNext, openNext, find?_hushed]
  rcases Members.find? members key.name with _ | found
  · refine congrArg Except.ok (Prod.ext ?_ rfl)
    exact (hushedMembers_snoc members key (.tables [.table .header [] (some place)] (some place))).symm
  · rw [Option.map_some]
    cases found
    case tables others first =>
      refine congrArg Except.ok (Prod.ext ?_ rfl)
      exact put_hushed members key (.tables (.table .header [] (some place) :: others) _)
    all_goals rfl

/-- The progress with empty strings. -/
def Progress.hushed (p : Progress) : Progress := { p with members := hushedMembers p.members }

theorem change_hushed (p : Progress) {quiet change : Change} (h : Hushes quiet change) (path : List Key) :
    p.hushed.change path quiet = (p.change path change).map Progress.hushed := by
  rw [Progress.change, Progress.change, Progress.hushed, within_hushed h]
  rcases within false change [] path .header p.members p.span with e | ⟨members, span⟩ <;> rfl

end Document

/-- A statement with empty strings, of whose text only the length is kept. -/
def Statement.hushed : Statement → Statement
  | .item path key value start => .item path key value.hushed (List.replicate start.length ' ')
  | .header path key span start => .header path key span (List.replicate start.length ' ')
  | .tablesHeader path key span start => .tablesHeader path key span (List.replicate start.length ' ')

namespace Document

theorem step_hushed (p : Progress) (s : Statement) : p.hushed.step s.hushed = (p.step s).map Progress.hushed := by
  cases s with
  | item path key value start => exact change_hushed p (assign_hushed p.header path key value) p.header
  | header path key span start =>
    rw [Statement.hushed, Progress.step, Progress.step, change_hushed p (openTable_hushed path key span)]
    rcases p.change path (openTable path key span) with e | q <;> rfl
  | tablesHeader path key span start =>
    rw [Statement.hushed, Progress.step, Progress.step, change_hushed p (openNext_hushed path key span)]
    rcases p.change path (openNext path key span) with e | q <;> rfl

theorem startOf_hushed (s : Statement) : (Refusal.soft (startOf s.hushed)).span = (Refusal.soft (startOf s)).span := by
  cases s <;> simp [Statement.hushed, startOf, Refusal.span, Refusal.soft]

theorem build_hushed (p : Progress) (read : List Statement) :
    build p.hushed (read.map Statement.hushed) = (build p read).map Progress.hushed := by
  induction read generalizing p with
  | nil => rfl
  | cons s read ih =>
    rw [List.map_cons, build, build, step_hushed]
    rcases p.step s with e | q
    · show Except.error (Fault.mk e.message (Refusal.soft (startOf s.hushed)).span) = _
      rw [startOf_hushed]
      rfl
    · exact ih q

end Document

end Fixtures.Toml
