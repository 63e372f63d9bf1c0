import Fixtures.Proofs.Script.Spelling
import Fixtures.Script.Simplify

/-!
# Simplification adds no words

What a sweep makes of a tree consists of parts of the tree and of values of its literals. So a script that is
simplified is spelled in the words that it was spelled in before: `spelled_program`.

## Shape of the proof

One lemma for each rule that rewrites a simplified part, then one induction over how a tree is spelled. The
sweeps over lists are maps, and what `tidy` leaves of a block comes from its statements.
-/

namespace Fixtures.Script

namespace Simplify

variable {words : String → Prop}

/-! ## Literals -/

theorem harmless_of_const? {e : Expr} {v : Value} (h : e.Spelled words) (hv : const? e = some v) : v.Harmless := by
  unfold const? at hv
  split at hv
  · cases hv
    cases h
    assumption
  · cases hv

theorem harmless_of_consts? {es : List Expr} {vs : List Value} (h : ∀ e ∈ es, e.Spelled words)
    (hvs : consts? es = some vs) : ∀ v ∈ vs, v.Harmless := by
  induction es generalizing vs with
  | nil =>
    cases hvs
    exact List.forall_mem_nil _
  | cons e rest ih =>
    rw [List.forall_mem_cons] at h
    simp only [consts?, Option.bind_eq_bind, Option.bind_eq_some_iff, Option.pure_def] at hvs
    obtain ⟨v, hv, vs, hrest, same⟩ := hvs
    cases same
    exact List.forall_mem_cons.mpr ⟨harmless_of_const? h.1 hv, ih h.2 hrest⟩

theorem harmless_of_constMembers? {ms : List (String × Expr)} {vs : List (String × Value)}
    (h : ∀ m ∈ ms, m.2.Spelled words) (hvs : constMembers? ms = some vs) : ∀ v ∈ vs, v.2.Harmless := by
  induction ms generalizing vs with
  | nil =>
    cases hvs
    exact List.forall_mem_nil _
  | cons m rest ih =>
    obtain ⟨name, e⟩ := m
    rw [List.forall_mem_cons] at h
    simp only [constMembers?, Option.bind_eq_bind, Option.bind_eq_some_iff, Option.pure_def] at hvs
    obtain ⟨v, hv, vs, hrest, same⟩ := hvs
    cases same
    exact List.forall_mem_cons.mpr ⟨harmless_of_const? h.1 hv, ih h.2 hrest⟩

theorem harmless_of_fold? {op : Operator} {a b : Expr} {v : Value} (h : fold? op a b = some v) : v.Harmless := by
  simp only [fold?, Option.bind_eq_bind, Option.bind_eq_some_iff] at h
  obtain ⟨a, -, b, -, o, found, ok⟩ := h
  have outcome := Operation.harmless_basic? op a b o found
  split at ok
  · cases ok
    exact outcome
  · cases ok

/-! ## Blocks -/

section Blocks

variable {statements : List Stmt}

theorem spelled_opened {s : Stmt} (h : s.Spelled words) : ∀ t ∈ opened s, t.Spelled words := by
  unfold opened
  split
  · split
    · exact List.forall_mem_singleton.mpr h
    · cases h
      assumption
  · exact List.forall_mem_singleton.mpr h

theorem reached_subset : reached statements ⊆ statements := by
  fun_induction reached statements with
  | case1 => exact List.Subset.refl _
  | case2 s rest => simp
  | case3 s rest _ ih => exact List.cons_subset_cons s ih

theorem effective_subset (keep : Bool) : effective keep statements ⊆ statements := by
  fun_induction effective keep statements with
  | case1 => exact List.Subset.refl _
  | case2 => simp
  | case3 => exact List.Subset.refl _
  | case4 s rest _ _ ih => exact List.subset_cons_of_subset s ih
  | case5 s rest _ _ ih => exact List.cons_subset_cons s ih

theorem spelled_trimmed (h : ∀ s ∈ statements, s.Spelled words) : ∀ s ∈ trimmed statements, s.Spelled words := by
  fun_induction trimmed statements with
  | case1 => exact h
  | case2 => simp
  | case3 => exact h
  | case4 s before rest _ _ =>
    exact List.forall_mem_cons.mpr ⟨.nothing, (List.forall_mem_cons.mp h).2⟩
  | case5 s before rest _ _ ih => exact ih (List.forall_mem_cons.mp h).2
  | case6 => exact h

theorem spelled_tidy (keep : Bool) (h : ∀ s ∈ statements, s.Spelled words) :
    ∀ s ∈ tidy keep statements, s.Spelled words := by
  have parts : ∀ s ∈ effective keep (reached (statements.flatMap opened)), s.Spelled words := by
    intro s hs
    obtain ⟨t, ht, hs⟩ := List.mem_flatMap.mp (reached_subset (effective_subset keep hs))
    exact spelled_opened (h t ht) s hs
  unfold tidy
  dsimp only
  split
  · intro s hs
    exact spelled_trimmed (fun t ht => parts t (List.mem_reverse.mp ht)) s (List.mem_reverse.mp hs)
  · exact parts

theorem spelled_blockStmt (h : ∀ s ∈ statements, s.Spelled words) (place : Place) :
    (blockStmt statements place).Spelled words := by
  unfold blockStmt
  split
  · exact .nothing
  · split
    · exact .block h
    · exact List.forall_mem_singleton.mp h
  · exact .block h

end Blocks

/-! ## Expressions -/

theorem spelled_junction (j : Junction) {left right : Expr} (hleft : left.Spelled words)
    (hright : right.Spelled words) (place : Place) : (junction j left right place).Spelled words := by
  unfold junction
  split
  all_goals first
    | assumption
    | exact .junction hleft hright

theorem spelled_selected? {root : Expr} (hroot : root.Spelled words) (link : Link) :
    ∀ e ∈ selected? root link, e.Spelled words := by
  have item {items : List Expr} (h : ∀ e ∈ items, e.Spelled words) (n : Int64) : ∀ e ∈ (if arePure items then
      (Library.position? items.length n.toInt).bind fun p => items[p]? else none), e.Spelled words := by
    intro e he
    split at he
    · obtain ⟨p, -, found⟩ := Option.bind_eq_some_iff.mp he
      exact h e (List.mem_of_getElem? found)
    · cases he
  have member {members : List (String × Expr)} (h : ∀ m ∈ members, m.2.Spelled words) (name : String)
      (place : Place) : ∀ e ∈ (if areMembersPure members then
        some ((members.lookup name).getD (.const .unit place)) else none), e.Spelled words := by
    intro e he
    split at he
    · cases he
      cases found : members.lookup name with
      | none => exact .const trivial
      | some e =>
        obtain ⟨before, after, rfl, -⟩ := List.lookup_eq_some_iff.mp found
        exact h (name, e) (List.mem_append_right _ List.mem_cons_self)
    · cases he
  have items {values : List Value} {place : Place} (h : (Expr.const (.array values) place).Spelled words) :
      ∀ e ∈ values.map (Expr.const · place), e.Spelled words := by
    cases h with
    | const h => exact List.forall_mem_map.mpr fun v hv => .const (Value.harmless_array.mp h v hv)
  have members {values : List (String × Value)} {place : Place}
      (h : (Expr.const (.map values) place).Spelled words) :
      ∀ m ∈ values.map (fun v => (v.1, Expr.const v.2 place)), m.2.Spelled words := by
    cases h with
    | const h => exact List.forall_mem_map.mpr fun m hm => .const (Value.harmless_map.mp h m hm)
  -- The literal is written out or folded to a constant, and its parts are spelled either way.
  unfold selected?
  dsimp only
  split
  · cases hroot with
    | array h => exact item h _
  · exact item (items hroot) _
  · cases hroot with
    | map h => exact member h _ _
  · cases hroot with
    | map h => exact member h _ _
  · exact member (members hroot) _ _
  · exact member (members hroot) _ _
  · simp

theorem spelled_chain {root : Expr} {links : List Link} (hroot : root.Spelled words)
    (hlinks : ∀ l ∈ links, l.Spelled words) : (chain root links).Spelled words := by
  unfold chain
  split
  · next link =>
    cases hsel : selected? root link with
    | none => exact .chain hroot hlinks
    | some e => exact spelled_selected? hroot link e hsel
  · exact .chain hroot hlinks

theorem spelled_choose (keep : Bool) {condition : Expr} {yes no : List Stmt} (hcondition : condition.Spelled words)
    (hyes : ∀ s ∈ yes, s.Spelled words) (hno : ∀ s ∈ no, s.Spelled words) (place : Place) :
    (choose keep condition yes no place).Spelled words := by
  unfold choose
  split
  · exact spelled_blockStmt hyes place
  · exact spelled_blockStmt hno place
  · split
    · refine .block (List.forall_mem_append.mpr ⟨spelled_tidy false ?_, List.forall_mem_singleton.mpr .nothing⟩)
      exact List.forall_mem_singleton.mpr (.expr hcondition)
    · exact .expr hcondition
  · exact .choose hcondition hyes hno

/-! ## Sweeps over lists -/

theorem exprs_eq_map (es : List Expr) : exprs es = es.map expr := by
  induction es with
  | nil => rfl
  | cons e rest ih => rw [exprs, ih, List.map_cons]

theorem members_eq_map (ms : List (String × Expr)) : members ms = ms.map fun m => (m.1, expr m.2) := by
  induction ms with
  | nil => rfl
  | cons m rest ih => rw [members, ih, List.map_cons]

theorem cases_eq_map (cs : List (List Value × Expr × Expr)) :
    cases cs = cs.map fun c => (c.1, expr c.2.1, expr c.2.2) := by
  induction cs with
  | nil => rfl
  | cons c rest ih => rw [cases, ih, List.map_cons]

/-- A link with its index or its arguments simplified. -/
def link : Link → Link
  | .property name place dot optional => .property name place dot optional
  | .method name args place dot optional => .method name (args.map expr) place dot optional
  | .index e bracket optional => .index (expr e) bracket optional

theorem links_eq_map (ls : List Link) : links ls = ls.map link := by
  induction ls with
  | nil => rfl
  | cons l rest ih => cases l <;> simp [links, link, ih, exprs_eq_map]

/-- Each statement is simplified by itself; whether its value counts depends on its place. -/
theorem forall_mem_stmts {good : Stmt → Prop} {ss : List Stmt} (h : ∀ s ∈ ss, ∀ keep, good (stmt keep s))
    (keep : Bool) : ∀ s ∈ stmts keep ss, good s := by
  induction ss with
  | nil => exact List.forall_mem_nil _
  | cons s rest ih =>
    rw [List.forall_mem_cons] at h
    cases rest with
    | nil => exact List.forall_mem_singleton.mpr (h.1 keep)
    | cons t rest => exact List.forall_mem_cons.mpr ⟨h.1 false, ih h.2⟩

/-- The statements of a block, simplified one by one and then together. -/
theorem spelled_body {ss : List Stmt} (h : ∀ s ∈ ss, ∀ keep, (stmt keep s).Spelled words) (keep : Bool) :
    ∀ s ∈ tidy keep (stmts keep ss), s.Spelled words := spelled_tidy keep (forall_mem_stmts h keep)

/-! ## Whole trees -/

mutual

theorem spelled_expr : ∀ {e : Expr}, e.Spelled words → (expr e).Spelled words
  | _, .const h => by
    rw [expr]
    exact .const h
  | _, .text h => by
    rw [expr]
    split
    · exact .const trivial
    · rw [exprs_eq_map]
      exact .text (List.forall_mem_map.mpr fun e he => spelled_expr (h e he))
  | _, .array h => by
    have items := List.forall_mem_map.mpr fun e he => spelled_expr (h e he)
    rw [expr, exprs_eq_map]
    split
    · next vs found => exact .const (Value.harmless_array.mpr (harmless_of_consts? items found))
    · exact .array items
  | .map ms _, .map h => by
    rw [expr, members_eq_map]
    have members : ∀ m ∈ ms.map fun m => (m.1, expr m.2), m.2.Spelled words :=
      List.forall_mem_map.mpr fun m hm => spelled_expr (h m hm)
    split
    · next vs found =>
      refine .const (Value.harmless_map.mpr (harmless_foldl_insertMember (List.forall_mem_nil _) ?_))
      exact harmless_of_constMembers? members found
    · exact .map members
  | _, .var h => by
    rw [expr]
    exact .var h
  | _, .this => by
    rw [expr]
    exact .this
  | _, .qualified => by
    rw [expr]
    exact .qualified
  | _, .signed h => by
    rw [expr]
    exact .signed (spelled_expr h)
  | _, .binary hleft hright => by
    rw [expr]
    split
    · next v folded => exact .const (harmless_of_fold? folded)
    · exact .binary (spelled_expr hleft) (spelled_expr hright)
  | _, .junction hleft hright => by
    rw [expr]
    exact spelled_junction _ (spelled_expr hleft) (spelled_expr hright) _
  | _, .within hcontainer hitem => by
    rw [expr]
    exact .within (spelled_expr hcontainer) (spelled_expr hitem)
  | _, .call h hargs => by
    rw [expr, exprs_eq_map]
    exact .call h (List.forall_mem_map.mpr fun e he => spelled_expr (hargs e he))
  | _, .chain hroot hlinks => by
    rw [expr, links_eq_map]
    exact spelled_chain (spelled_expr hroot) (List.forall_mem_map.mpr fun l hl => spelled_link (hlinks l hl))
  | _, .block h => by
    have body := spelled_body (fun s hs keep => spelled_stmt keep (h s hs)) true
    rw [expr]
    split
    · exact .const trivial
    · next e same =>
      rw [same] at body
      cases List.forall_mem_singleton.mp body
      assumption
    · exact .block body
  | _, .closure h => by
    rw [expr]
    exact .closure h

theorem spelled_link : ∀ {l : Link}, l.Spelled words → (link l).Spelled words
  | _, .property => .property
  | _, .method h hargs => .method h (List.forall_mem_map.mpr fun e he => spelled_expr (hargs e he))
  | _, .index h => .index (spelled_expr h)

theorem spelled_stmt (keep : Bool) : ∀ {s : Stmt}, s.Spelled words → (stmt keep s).Spelled words
  | _, .nothing => by
    rw [stmt]
    exact .nothing
  | _, .expr h => by
    rw [stmt]
    exact .expr (spelled_expr h)
  | _, .block h => by
    rw [stmt]
    exact spelled_blockStmt (spelled_body (fun s hs keep => spelled_stmt keep (h s hs)) keep) _
  | _, .choose hcondition hyes hno => by
    rw [stmt]
    exact spelled_choose keep (spelled_expr hcondition)
      (spelled_body (fun s hs keep => spelled_stmt keep (hyes s hs)) keep)
      (spelled_body (fun s hs keep => spelled_stmt keep (hno s hs)) keep) _
  | _, .switch hsubject hconditions hvalues => by
    rw [stmt, cases_eq_map]
    exact .switch (spelled_expr hsubject)
      (List.forall_mem_map.mpr fun c hc => spelled_expr (hconditions c hc))
      (List.forall_mem_map.mpr fun c hc => spelled_expr (hvalues c hc))
  | .loop none _ _ _, .loop _ hbody => by
    rw [stmt]
    exact .loop (by simp) (spelled_body (fun s hs keep => spelled_stmt keep (hbody s hs)) false)
  | .loop (some condition) _ _ _, .loop hcondition hbody => by
    rw [stmt]
    split
    · exact .nothing
    · refine .loop ?_ (spelled_body (fun s hs keep => spelled_stmt keep (hbody s hs)) false)
      simpa using spelled_expr (hcondition condition rfl)
  | _, .again hbody hcondition => by
    rw [stmt]
    exact .again (spelled_body (fun s hs keep => spelled_stmt keep (hbody s hs)) false)
      (spelled_expr hcondition)
  | _, .each hitems hbody => by
    rw [stmt]
    exact .each (spelled_expr hitems)
      (spelled_body (fun s hs keep => spelled_stmt keep (hbody s hs)) false)
  | _, .define h => by
    rw [stmt]
    exact .define (spelled_expr h)
  | _, .assign htarget h => by
    rw [stmt]
    exact .assign (spelled_expr htarget) (spelled_expr h)
  | _, .next => by
    rw [stmt]
    exact .next
  | .leave none _, .leave h _ => by
    rw [stmt]
    exact .leave h (by simp)
  | .leave (some e) _, .leave h he => by
    rw [stmt]
    exact .leave h (by simpa using spelled_expr (he e rfl))
  | .give none _, .give h _ => by
    rw [stmt]
    exact .give h (by simp)
  | .give (some e) _, .give h he => by
    rw [stmt]
    exact .give h (by simpa using spelled_expr (he e rfl))
  | .throw none _, .throw _ => by
    rw [stmt]
    exact .throw (by simp)
  | .throw (some e) _, .throw he => by
    rw [stmt]
    exact .throw (by simpa using spelled_expr (he e rfl))
  | _, .attempt hbody hhandler => by
    have body := spelled_body (fun s hs keep => spelled_stmt keep (hbody s hs)) false
    rw [stmt]
    split
    · exact spelled_blockStmt body _
    · exact .attempt body
        (spelled_body (fun s hs keep => spelled_stmt keep (hhandler s hs)) false)

end

/-- A script that is simplified is spelled in the words that it was spelled in before. -/
theorem spelled_program {p : Program} (h : p.Spelled words) : (program p).Spelled words where
  body := spelled_body (fun s hs keep => spelled_stmt keep (h.body s hs)) true
  functions := by
    refine List.forall_mem_map.mpr fun f hf => ?_
    exact spelled_body (fun s hs keep => spelled_stmt keep (h.functions f hf s hs)) true

end Simplify

end Fixtures.Script
