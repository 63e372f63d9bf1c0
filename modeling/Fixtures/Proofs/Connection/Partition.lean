import Mathlib.Data.List.Forall2
import Fixtures.Proofs.Connection.Masking

/-!
# The one way to take a connection string apart

`Parts.Splits` says which parts a text has, and not how they are found: put together they are the text, and each
of them ends at its own occurrence of the delimiter. A text has such parts exactly if it holds a mark behind a
scheme, and then no others (`Parts.ofChars?_eq_some`).

Masked parts have no delimiter that the parts did not have. So they split the text that is shown, and what is
shown of that text is the same again.

## Main results

* `redact_redact`: what is shown of the text shown is the same, part by part.
* `redact_apart_from_secrets`: the text shown is the text itself but for its secrets.
-/

namespace Fixtures.Connection

open Text (cutFirst pieces join)

/-! ## The parts of a text -/

/-- The parts that a text splits into. -/
structure Parts.Splits (p : Parts) (text : List Char) : Prop where
  whole : p.toChars = text
  /-- The scheme ends at the first mark. -/
  scheme : ¬ schemeMark <:+: p.scheme
  /-- The user information ends at the last `@`. -/
  userinfo : '@' ∉ p.seeds ++ tailText '/' p.database ++ tailText '?' p.options
  /-- The options begin at the first question mark after it. -/
  options : '?' ∉ p.seeds ++ tailText '/' p.database
  /-- The database begins at the first slash before them. -/
  database : '/' ∉ p.seeds

theorem not_mem_cutUserinfo (text : List Char) : '@' ∉ (cutUserinfo text).2 := by
  unfold cutUserinfo
  split
  · next cut => exact Text.not_mem_of_cutLast cut
  · next none_ => exact Text.cutLast_eq_none.1 none_

theorem not_mem_cutTail (d : Char) (text : List Char) : d ∉ (cutTail d text).1 := by
  unfold cutTail
  split
  · next cut => exact Text.not_mem_of_cutFirst cut
  · next none_ => exact Text.cutFirst_eq_none.1 none_

/-- What was taken apart splits. -/
theorem Parts.splits_ofRest {scheme : List Char} (h : ¬ schemeMark <:+: scheme) (rest : List Char) :
    (Parts.ofRest scheme rest).Splits (scheme ++ schemeMark ++ rest) := by
  have location := tailText_cutTail '?' (cutUserinfo rest).2
  have front := tailText_cutTail '/' (cutTail '?' (cutUserinfo rest).2).1
  refine ⟨toChars_ofRest scheme rest, h, ?_, ?_, not_mem_cutTail _ _⟩
  · rw [ofRest, front, location]
    exact not_mem_cutUserinfo rest
  · rw [ofRest, front]
    exact not_mem_cutTail _ _

/-- The parts of a text are those that it splits into. -/
theorem Parts.ofChars?_eq_some {text : List Char} {p : Parts} :
    Parts.ofChars? text = some p ↔ p.Splits text := by
  constructor
  · intro h
    obtain ⟨⟨scheme, rest⟩, cut, rfl⟩ := Option.map_eq_some_iff.1 h
    rw [Text.cutWord_eq cut]
    exact splits_ofRest (Text.not_infix_of_cutWord (by decide) cut) rest
  · rintro ⟨rfl, scheme, noAt, noQuestion, noSlash⟩
    have whole : p.toChars = p.scheme ++ schemeMark ++
        (leadText p.userinfo ++ (p.seeds ++ tailText '/' p.database ++ tailText '?' p.options)) := by
      simp only [Parts.toChars, List.append_assoc]
    -- Each cut is made where the parts were put together.
    have none_ := Text.cutLast_eq_none.2 noAt
    rw [whole, ofChars?_scheme scheme, ofRest_leadText _ _ noAt]
    simp only [ofRest, cutUserinfo, none_, cutTail_tailText noQuestion, cutTail_tailText noSlash]

theorem Parts.Splits.unique {text : List Char} {p q : Parts} (hp : p.Splits text) (hq : q.Splits text) :
    q = p :=
  Option.some.inj ((ofChars?_eq_some.2 hq).symm.trans (ofChars?_eq_some.2 hp))

theorem Parts.ofChars?_eq_none {text : List Char} : Parts.ofChars? text = none ↔ ¬ schemeMark <:+: text := by
  rw [ofChars?, Option.map_eq_none_iff, Text.cutWord_eq_none]

/-! ## Masked parts -/

theorem maskUserinfo_of_not_mem {info : List Char} (h : ':' ∉ info) : maskUserinfo info = info := by
  have none_ := Text.cutFirst_eq_none.2 h
  rw [maskUserinfo, none_]

theorem maskOption_of_not_mem {option : List Char} (h : '=' ∉ option) : maskOption option = option := by
  have none_ := Text.cutFirst_eq_none.2 h
  rw [maskOption, none_]

theorem maskOption_pair {key : List Char} (h : '=' ∉ key) (value : List Char) :
    maskOption (key ++ '=' :: value) = key ++ '=' :: if isSensitive key then maskText else value := by
  rw [maskOption, Text.cutFirst_append h]
  dsimp only
  split <;> rfl

theorem maskUserinfo_maskUserinfo (info : List Char) :
    maskUserinfo (maskUserinfo info) = maskUserinfo info := by
  by_cases colon : ':' ∈ info
  · obtain ⟨user, password, rfl, noColon⟩ := List.eq_append_cons_of_mem colon
    rw [maskUserinfo_password noColon, maskUserinfo_password noColon]
  · rw [maskUserinfo_of_not_mem colon, maskUserinfo_of_not_mem colon]

theorem maskOption_maskOption (option : List Char) : maskOption (maskOption option) = maskOption option := by
  by_cases equals : '=' ∈ option
  · obtain ⟨key, value, rfl, noEquals⟩ := List.eq_append_cons_of_mem equals
    rw [maskOption_pair noEquals, maskOption_pair noEquals]
    split <;> rfl
  · rw [maskOption_of_not_mem equals, maskOption_of_not_mem equals]

/-- Masking an option puts nothing but a mask into it. -/
theorem not_mem_maskOption {c : Char} {option : List Char} (hc : c ∉ maskText) (h : c ∉ option) :
    c ∉ maskOption option := by
  by_cases equals : '=' ∈ option
  · obtain ⟨key, value, rfl, noEquals⟩ := List.eq_append_cons_of_mem equals
    rw [maskOption_pair noEquals]
    simp only [List.mem_append, List.mem_cons, not_or] at h ⊢
    refine ⟨h.1, h.2.1, ?_⟩
    split
    · exact hc
    · exact h.2.2
  · rwa [maskOption_of_not_mem equals]

theorem not_mem_maskOptions {c : Char} {options : List Char} (hc : c ∉ '&' :: maskText) (h : c ∉ options) :
    c ∉ maskOptions options := by
  rw [List.mem_cons, not_or] at hc
  refine Text.not_mem_join (by simpa using hc.1) fun option hoption => ?_
  obtain ⟨piece, hpiece, rfl⟩ := List.mem_map.1 hoption
  exact not_mem_maskOption hc.2 fun hmem => h (Text.mem_of_mem_pieces hpiece hmem)

/-- Masked options are cut where the options are. -/
theorem pieces_maskOptions (options : List Char) :
    pieces '&' (maskOptions options) = (pieces '&' options).map maskOption := by
  refine Text.pieces_join (by simpa using Text.pieces_ne_nil '&' options) fun option hoption => ?_
  obtain ⟨piece, hpiece, rfl⟩ := List.mem_map.1 hoption
  exact not_mem_maskOption (by decide) (Text.not_mem_of_mem_pieces hpiece)

theorem maskOptions_maskOptions (options : List Char) : maskOptions (maskOptions options) = maskOptions options := by
  have same : maskOption ∘ maskOption = maskOption := funext maskOption_maskOption
  rw [maskOptions, pieces_maskOptions, List.map_map, same, maskOptions]

/-- Masked parts are masked. -/
theorem Parts.mask_mask (p : Parts) : p.mask.mask = p.mask := by
  have userinfo : maskUserinfo ∘ maskUserinfo = maskUserinfo := funext maskUserinfo_maskUserinfo
  have options : maskOptions ∘ maskOptions = maskOptions := funext maskOptions_maskOptions
  simp only [Parts.mask, Option.map_map, userinfo, options]

/-- The text of the masked parts splits into them. -/
theorem Parts.Splits.mask {text : List Char} {p : Parts} (h : p.Splits text) : p.mask.Splits p.mask.toChars := by
  refine ⟨rfl, h.scheme, ?_, h.options, h.database⟩
  have noAt := h.userinfo
  rw [List.mem_append, not_or] at noAt ⊢
  refine ⟨noAt.1, ?_⟩
  have noAtOptions := noAt.2
  rw [Parts.mask]
  cases options : p.options with
  | none => exact List.not_mem_nil
  | some options_ =>
    rw [options, tailText_some, List.mem_cons, not_or] at noAtOptions
    rw [Option.map_some, tailText_some, List.mem_cons, not_or]
    exact ⟨by decide, not_mem_maskOptions (by decide) noAtOptions.2⟩

theorem redacted_eq {text : String} {p : Parts} (h : p.Splits text.toList) :
    (redact text).redacted = String.ofList p.mask.toChars := by
  simp only [redact, Parts.ofChars?_eq_some.2 h]

/-- What is shown of the text shown is the same: the parts that may be shown are found in it again, and there is
nothing left to mask. -/
theorem redact_redact (text : String) : redact (redact text).redacted = redact text := by
  cases found : Parts.ofChars? text.toList with
  | none =>
    have plain : redact text = ⟨none, none, [], none, text⟩ := by simp only [redact, found]
    rw [plain]
    exact plain
  | some p =>
    have splits := Parts.ofChars?_eq_some.1 found
    have again : Parts.ofChars? (redact text).redacted.toList = some p.mask := by
      rw [redacted_eq splits, String.toList_ofList]
      exact Parts.ofChars?_eq_some.2 splits.mask
    exact redact_eq_of_mask again found p.mask_mask

/-! ## Nothing but secrets is masked -/

/-- User information, and what it is shown as. -/
inductive UserinfoShown : List Char → List Char → Prop
  | user {info : List Char} (noColon : ':' ∉ info) : UserinfoShown info info
  | password {user : List Char} (password : List Char) (noColon : ':' ∉ user) :
    UserinfoShown (user ++ ':' :: password) (user ++ ":***".toList)

/-- An option, and what it is shown as. -/
inductive OptionShown : List Char → List Char → Prop
  | flag {option : List Char} (noEquals : '=' ∉ option) : OptionShown option option
  | secret {key : List Char} (value : List Char) (noEquals : '=' ∉ key)
    (sensitive : key.map Char.toLower ∈ sensitiveKeys) :
    OptionShown (key ++ '=' :: value) (key ++ "=***".toList)
  | plain {key : List Char} (value : List Char) (noEquals : '=' ∉ key)
    (open_ : key.map Char.toLower ∉ sensitiveKeys) : OptionShown (key ++ '=' :: value) (key ++ '=' :: value)

/-- Options between ampersands, and what they are shown as. -/
def OptionsShown (options shown : List Char) : Prop :=
  List.Forall₂ OptionShown (pieces '&' options) (pieces '&' shown)

/-- Parts, and those that are shown of them. -/
structure Parts.ShownAs (p shown : Parts) : Prop where
  scheme : shown.scheme = p.scheme
  userinfo : Option.Rel UserinfoShown p.userinfo shown.userinfo
  seeds : shown.seeds = p.seeds
  database : shown.database = p.database
  options : Option.Rel OptionsShown p.options shown.options

/-- Parts in which there is a mask in place of each secret. -/
structure Parts.IsMasked (p : Parts) : Prop where
  password : ∀ user password, ':' ∉ user → p.userinfo = some (user ++ ':' :: password) →
    password = "***".toList
  value : ∀ options ∈ p.options, ∀ key value, key ++ '=' :: value ∈ pieces '&' options → '=' ∉ key →
    key.map Char.toLower ∈ sensitiveKeys → value = "***".toList

theorem userinfoShown_mask (info : List Char) : UserinfoShown info (maskUserinfo info) := by
  by_cases colon : ':' ∈ info
  · obtain ⟨user, password, rfl, noColon⟩ := List.eq_append_cons_of_mem colon
    rw [maskUserinfo_password noColon]
    exact .password password noColon
  · rw [maskUserinfo_of_not_mem colon]
    exact .user colon

theorem isSensitive_iff {key : List Char} : isSensitive key = true ↔ key.map Char.toLower ∈ sensitiveKeys :=
  List.contains_iff_mem

theorem optionShown_mask (option : List Char) : OptionShown option (maskOption option) := by
  by_cases equals : '=' ∈ option
  · obtain ⟨key, value, rfl, noEquals⟩ := List.eq_append_cons_of_mem equals
    rw [maskOption_pair noEquals]
    split
    · next sensitive => exact .secret value noEquals (isSensitive_iff.1 sensitive)
    · next open_ => exact .plain value noEquals fun sensitive => open_ (isSensitive_iff.2 sensitive)
  · rw [maskOption_of_not_mem equals]
    exact .flag equals

theorem optionsShown_mask (options : List Char) : OptionsShown options (maskOptions options) := by
  rw [OptionsShown, pieces_maskOptions, List.forall₂_map_right_iff, List.forall₂_same]
  exact fun option _ => optionShown_mask option

/-- Masked parts are those that are shown. -/
theorem Parts.shownAs_mask (p : Parts) : p.ShownAs p.mask := by
  refine ⟨rfl, ?_, rfl, rfl, ?_⟩
  · rw [Parts.mask]
    cases p.userinfo with
    | none => exact .none
    | some info => exact .some (userinfoShown_mask info)
  · rw [Parts.mask]
    cases p.options with
    | none => exact .none
    | some options => exact .some (optionsShown_mask options)

/-- User information stays as it is exactly if a mask stands for its password. -/
theorem maskUserinfo_eq_self {info : List Char} :
    maskUserinfo info = info ↔
      ∀ user password, ':' ∉ user → info = user ++ ':' :: password → password = maskText := by
  constructor
  · rintro same user password noColon rfl
    rw [maskUserinfo_password noColon, List.append_cancel_left_eq, List.cons.injEq] at same
    exact same.2.symm
  · intro masked
    by_cases colon : ':' ∈ info
    · obtain ⟨user, password, rfl, noColon⟩ := List.eq_append_cons_of_mem colon
      rw [maskUserinfo_password noColon, masked user password noColon rfl]
    · exact maskUserinfo_of_not_mem colon

theorem maskOption_eq_self {option : List Char} :
    maskOption option = option ↔ ∀ key value, option = key ++ '=' :: value → '=' ∉ key →
      key.map Char.toLower ∈ sensitiveKeys → value = maskText := by
  constructor
  · rintro same key value rfl noEquals sensitive
    rw [maskOption_pair noEquals, if_pos (isSensitive_iff.2 sensitive), List.append_cancel_left_eq,
      List.cons.injEq] at same
    exact same.2.symm
  · intro masked
    by_cases equals : '=' ∈ option
    · obtain ⟨key, value, rfl, noEquals⟩ := List.eq_append_cons_of_mem equals
      rw [maskOption_pair noEquals]
      split
      · next sensitive => rw [masked key value rfl noEquals (isSensitive_iff.1 sensitive)]
      · rfl
    · exact maskOption_of_not_mem equals

theorem maskOptions_eq_self {options : List Char} :
    maskOptions options = options ↔ ∀ option ∈ pieces '&' options, maskOption option = option := by
  constructor
  · intro same
    have each := pieces_maskOptions options
    rw [same] at each
    have each : (pieces '&' options).map maskOption = (pieces '&' options).map id := by rw [← each, List.map_id]
    exact List.map_inj_left.1 each
  · intro each
    rw [maskOptions, List.map_congr_left (g := id) each, List.map_id, Text.join_pieces]

/-- Masking changes all parts but those with masks in place of their secrets. -/
theorem Parts.mask_eq_self {p : Parts} : p.mask = p ↔ p.IsMasked := by
  obtain ⟨scheme, userinfo, seeds, database, options⟩ := p
  have parts : Parts.mask ⟨scheme, userinfo, seeds, database, options⟩ =
      ⟨scheme, userinfo, seeds, database, options⟩ ↔
        (∀ info, userinfo = some info → maskUserinfo info = info) ∧
          ∀ o, options = some o → maskOptions o = o := by
    cases userinfo <;> cases options <;> simp [Parts.mask]
  rw [parts]
  constructor
  · rintro ⟨hinfo, hoptions⟩
    refine ⟨fun user password noColon same => ?_, fun o ho key value hpiece => ?_⟩
    · exact maskUserinfo_eq_self.1 (hinfo _ same) user password noColon rfl
    · exact maskOption_eq_self.1 (maskOptions_eq_self.1 (hoptions o ho) _ hpiece) key value rfl
  · rintro ⟨password, value⟩
    refine ⟨?_, ?_⟩
    · rintro info rfl
      exact maskUserinfo_eq_self.2 fun user word noColon same => password user word noColon (congrArg some same)
    · rintro o rfl
      refine maskOptions_eq_self.2 fun option hpiece => maskOption_eq_self.2 ?_
      rintro key word rfl
      exact value o rfl key word hpiece

/-- The text shown is the text itself with masks in place of its secrets. A text with a mark has parts in one way
only, and those with masks are the ones shown; so the text is shown as it is exactly if it has masks already.
A text without a mark is shown as it is. -/
theorem redact_apart_from_secrets (text : String) :
    (schemeMark <:+: text.toList → ∃ p shown : Parts, p.Splits text.toList ∧
      (∀ q : Parts, q.Splits text.toList → q = p) ∧
      p.ShownAs shown ∧ (redact text).redacted.toList = shown.toChars ∧
      ((redact text).redacted = text ↔ p.IsMasked)) ∧
    (¬ schemeMark <:+: text.toList → (redact text).redacted = text) := by
  constructor
  · intro mark
    cases found : Parts.ofChars? text.toList with
    | none => exact absurd mark (Parts.ofChars?_eq_none.1 found)
    | some p =>
      have splits := Parts.ofChars?_eq_some.1 found
      have shown := redacted_eq splits
      refine ⟨p, p.mask, splits, fun q hq => splits.unique hq, p.shownAs_mask, ?_, ?_⟩
      · rw [shown, String.toList_ofList]
      · rw [← Parts.mask_eq_self]
        constructor
        · intro same
          have again := splits.mask
          rw [← String.toList_ofList (l := p.mask.toChars), ← shown, same] at again
          exact splits.unique again
        · intro same
          rw [shown, same, splits.whole, String.ofList_toList]
  · intro noMark
    simp only [redact, Parts.ofChars?_eq_none.2 noMark]

end Fixtures.Connection
