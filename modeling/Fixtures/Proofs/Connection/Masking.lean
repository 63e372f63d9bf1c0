import Mathlib.Data.List.Infix
import Fixtures.Export.Sink
import Fixtures.Proofs.Text.Cutting

/-!
# What masking hides

What is shown of a connection string depends on its masked parts alone (`redact_eq_of_mask`). So a secret does
not show as long as the string is cut into the parts that it was put together from, whatever the secret is.

The user information ends at the last `@` of the whole string. A password may therefore hold any delimiter, but
the value of an option may not: if it holds an `@`, all before that is taken for user information.

## Main results

* `redact_password` — passwords do not show
* `redact_withOption` — values of sensitive options do not show unless they hold an `@`, and what shows then
* `redacted_option_at` — a value that shows
-/

namespace Fixtures.Connection

open Text (cutFirst cutLast cutWord dropLead? pieces join)

/-! ## Taking apart what was put together -/

/-- A scheme ends at the first mark: no mark can begin in a scheme without one and end behind it. -/
theorem cutWord_schemeMark {scheme : List Char} (h : ¬ schemeMark <:+: scheme) (rest : List Char) :
    cutWord schemeMark (scheme ++ schemeMark ++ rest) = some (scheme, rest) := by
  induction scheme with
  | nil => rfl
  | cons c scheme ih =>
    have later := ih fun inside => h (inside.trans (List.suffix_cons c scheme).isInfix)
    have noMark : dropLead? schemeMark (c :: (scheme ++ schemeMark ++ rest)) = none := by
      cases found : dropLead? schemeMark (c :: (scheme ++ schemeMark ++ rest)) with
      | none => rfl
      | some after =>
        exfalso
        have whole := Text.dropLead?_eq_some.1 found
        match scheme with
        | [] => simp [schemeMark] at whole
        | [d] => simp [schemeMark] at whole
        | d :: e :: more =>
          simp only [schemeMark, List.cons_append, List.nil_append, List.cons.injEq] at whole
          obtain ⟨rfl, rfl, rfl, -⟩ := whole
          exact h (List.prefix_append schemeMark more).isInfix
    rw [List.cons_append, List.cons_append, cutWord, noMark, later]
    rfl

/-- The user information of a text put together from it and a location without `@`. -/
theorem cutUserinfo_leadText (userinfo : Option (List Char)) {location : List Char} (h : '@' ∉ location) :
    cutUserinfo (leadText userinfo ++ location) = (userinfo, location) := by
  cases userinfo with
  | none =>
    have noMark := Text.cutLast_eq_none.2 h
    rw [leadText, List.nil_append, cutUserinfo, noMark]
  | some info =>
    have cut := Text.cutLast_append info h
    rw [leadText, List.append_assoc, List.singleton_append, cutUserinfo, cut]

theorem cutTail_tailText {d : Char} {before : List Char} (h : d ∉ before) (part : Option (List Char)) :
    cutTail d (before ++ tailText d part) = (before, part) := by
  cases part with
  | none =>
    have noMark := Text.cutFirst_eq_none.2 h
    rw [tailText, List.append_nil, cutTail, noMark]
  | some after =>
    have cut := Text.cutFirst_append h after
    rw [tailText, cutTail, cut]

theorem tailText_some (d : Char) (part : List Char) : tailText d (some part) = d :: part := rfl

theorem tailText_none (d : Char) : tailText d none = [] := rfl

/-- A location without `@` has the same parts behind any user information. -/
theorem Parts.ofRest_leadText (scheme : List Char) (userinfo : Option (List Char)) {location : List Char}
    (h : '@' ∉ location) :
    Parts.ofRest scheme (leadText userinfo ++ location) = { Parts.ofRest scheme location with userinfo } := by
  have without := cutUserinfo_leadText none h
  rw [leadText, List.nil_append] at without
  rw [Parts.ofRest, Parts.ofRest, cutUserinfo_leadText userinfo h, without]

theorem Parts.ofChars?_scheme {scheme : List Char} (h : ¬ schemeMark <:+: scheme) (rest : List Char) :
    Parts.ofChars? (scheme ++ schemeMark ++ rest) = some (Parts.ofRest scheme rest) := by
  rw [Parts.ofChars?, cutWord_schemeMark h]
  rfl

/-! ## Masked parts -/

/-- The password is all that is masked of user information. -/
theorem maskUserinfo_password {user : List Char} (h : ':' ∉ user) (password : List Char) :
    maskUserinfo (user ++ ':' :: password) = user ++ ':' :: maskText := by
  rw [maskUserinfo, Text.cutFirst_append h]

/-- Masking keeps the user. -/
theorem Parts.user_mask (p : Parts) : p.mask.user = p.user := by
  rw [Parts.user, Parts.user, Parts.mask, Option.map_map]
  congr 1
  funext info
  rw [Function.comp_apply, maskUserinfo]
  cases cut : cutFirst ':' info with
  | none => simp only [cut]
  | some parts =>
    have again := Text.cutFirst_append (Text.not_mem_of_cutFirst cut) maskText
    simp only [again]

/-- Texts with the same masked parts look the same. -/
theorem redact_eq_of_mask {s t : String} {p q : Parts} (hs : Parts.ofChars? s.toList = some p)
    (ht : Parts.ofChars? t.toList = some q) (h : p.mask = q.mask) : redact s = redact t := by
  have kept := h
  simp only [Parts.mask, Parts.mk.injEq] at kept
  obtain ⟨scheme, -, seeds, database, -⟩ := kept
  have user : p.user = q.user := by rw [← p.user_mask, h, q.user_mask]
  have hosts : p.hosts = q.hosts := by rw [Parts.hosts, seeds, Parts.hosts]
  simp only [redact, hs, ht, scheme, user, hosts, database, h]

/-- User information shows behind the scheme, but for its password. -/
theorem prefix_redacted {s : String} {p : Parts} {info : List Char} (hs : Parts.ofChars? s.toList = some p)
    (hinfo : p.userinfo = some info) :
    p.scheme ++ schemeMark ++ maskUserinfo info ++ ['@'] <+: (redact s).redacted.toList := by
  have text : (redact s).redacted.toList = p.mask.toChars := by
    simp only [redact, hs, String.toList_ofList]
  refine ⟨p.seeds ++ tailText '/' p.database ++ tailText '?' (p.options.map maskOptions), ?_⟩
  rw [text, Parts.toChars, Parts.mask, hinfo, Option.map_some, leadText]
  simp only [List.append_assoc]

/-! ## Passwords -/

/-- A connection string with a password. -/
def withPassword (scheme user password location : String) : String :=
  scheme ++ "://" ++ user ++ ":" ++ password ++ "@" ++ location

theorem Parts.ofChars?_withPassword {scheme user location : String}
    (noMark : ¬ schemeMark <:+: scheme.toList) (noAt : '@' ∉ location.toList) (password : String) :
    Parts.ofChars? (withPassword scheme user password location).toList =
      some { Parts.ofRest scheme.toList location.toList with
        userinfo := some (user.toList ++ ':' :: password.toList) } := by
  have text : (withPassword scheme user password location).toList =
      scheme.toList ++ schemeMark ++
        (leadText (some (user.toList ++ ':' :: password.toList)) ++ location.toList) := by
    simp [withPassword, schemeMark, leadText]
  rw [text, Parts.ofChars?_scheme noMark, Parts.ofRest_leadText _ _ noAt]

/-- A password does not show: neither in what is shown of a connection string nor in the event that tells of
the connection. It may hold any delimiter. -/
theorem redact_password {scheme user location : String} (noMark : ¬ schemeMark <:+: scheme.toList)
    (noColon : ':' ∉ user.toList) (noAt : '@' ∉ location.toList) (password other : String) :
    redact (withPassword scheme user password location) = redact (withPassword scheme user other location) ∧
      ∀ database, Export.connectingEvent ⟨withPassword scheme user password location, database⟩ =
        Export.connectingEvent ⟨withPassword scheme user other location, database⟩ := by
  have same : redact (withPassword scheme user password location) =
      redact (withPassword scheme user other location) := by
    apply redact_eq_of_mask (Parts.ofChars?_withPassword noMark noAt password)
      (Parts.ofChars?_withPassword noMark noAt other)
    simp only [Parts.mask, Option.map_some, maskUserinfo_password noColon]
  refine ⟨same, fun database => ?_⟩
  simp only [Export.connectingEvent, same]

/-- A password that holds every delimiter does not show. -/
theorem redact_password_delimiters :
    redact "mongodb://admin:p@ss/w?rd:,&=://@db.example.com/app?tls=true" =
        redact "mongodb://admin:x@db.example.com/app?tls=true" ∧
      ∀ database, Export.connectingEvent ⟨"mongodb://admin:p@ss/w?rd:,&=://@db.example.com/app?tls=true", database⟩ =
        Export.connectingEvent ⟨"mongodb://admin:x@db.example.com/app?tls=true", database⟩ := by
  have noMark : ¬ schemeMark <:+: "mongodb".toList := by decide
  have noColon : ':' ∉ "admin".toList := by decide
  have noAt : '@' ∉ "db.example.com/app?tls=true".toList := by decide
  exact redact_password noMark noColon noAt "p@ss/w?rd:,&=://" "x"

/-! ## Options -/

theorem maskOptions_append (left right : List Char) :
    maskOptions (left ++ '&' :: right) = maskOptions left ++ '&' :: maskOptions right := by
  have hl : (pieces '&' left).map maskOption ≠ [] := by simpa using Text.pieces_ne_nil '&' left
  have hr : (pieces '&' right).map maskOption ≠ [] := by simpa using Text.pieces_ne_nil '&' right
  rw [maskOptions, Text.pieces_append, List.map_append, Text.join_append _ hl hr]
  simp [maskOptions]

/-- Options are masked one by one, also where one of them is several. -/
theorem maskOptions_join (options : List (List Char)) :
    maskOptions (join ['&'] options) = join ['&'] (options.map maskOptions) := by
  induction options with
  | nil => rfl
  | cons option options ih =>
    cases options with
    | nil => rfl
    | cons second options =>
      rw [Text.join_cons_cons, List.append_assoc, List.singleton_append, maskOptions_append, ih]
      simp [Text.join_cons_cons]

/-- Sensitive keys are made of letters. -/
theorem isAlpha_of_sensitive {key : List Char} (h : key.map Char.toLower ∈ sensitiveKeys) {c : Char}
    (hc : c ∈ key) : c.toLower.isAlpha = true := by
  have letters : (sensitiveKeys.all fun key => key.all Char.isAlpha) = true := by decide
  exact List.all_eq_true.1 (List.all_eq_true.1 letters _ h) _ (List.mem_map_of_mem hc)

/-- The value of a sensitive option is masked. -/
theorem maskOptions_sensitive {key : List Char} (h : key.map Char.toLower ∈ sensitiveKeys) {value : List Char}
    (one : '&' ∉ value) : maskOptions (key ++ '=' :: value) = key ++ '=' :: maskText := by
  have noEquals : '=' ∉ key := fun hc => absurd (isAlpha_of_sensitive h hc) (by decide)
  have noAnd : '&' ∉ key := fun hc => absurd (isAlpha_of_sensitive h hc) (by decide)
  have whole : '&' ∉ key ++ '=' :: value := by simp [noAnd, one]
  have sensitive : isSensitive key = true := by simpa [isSensitive] using h
  rw [maskOptions, Text.pieces_of_not_mem whole, List.map_singleton, join, maskOption,
    Text.cutFirst_append noEquals]
  simp only [sensitive, if_true]

/-- A connection string of some parts and the options `before`, `key=value` and `after`. -/
def Parts.withOption (p : Parts) (before : List (List Char)) (key value : List Char)
    (after : List (List Char)) : Parts :=
  { p with options := some (join ['&'] (before ++ (key ++ '=' :: value) :: after)) }

/-- The text of `Parts.withOption`. -/
def Parts.textWith (p : Parts) (before : List (List Char)) (key value : List Char)
    (after : List (List Char)) : String := String.ofList (p.withOption before key value after).toChars

/-- The part of that text between the scheme and the end of the value. -/
def Parts.upToValue (p : Parts) (before : List (List Char)) (key value : List Char) : List Char :=
  leadText p.userinfo ++ p.seeds ++ tailText '/' p.database ++
    '?' :: join ['&'] (before ++ [key ++ '=' :: value])

theorem Parts.toList_textWith (p : Parts) (before : List (List Char)) (key value : List Char)
    (after : List (List Char)) :
    (p.textWith before key value after).toList =
      p.scheme ++ schemeMark ++ (leadText p.userinfo ++
        (p.seeds ++ tailText '/' p.database ++
          '?' :: join ['&'] (before ++ (key ++ '=' :: value) :: after))) := by
  simp [Parts.textWith, Parts.toChars, Parts.withOption, tailText_some]

/-- Parts and options in which no delimiter stands that comes after them in a connection string. -/
structure Parts.Undelimited (p : Parts) (before after : List (List Char)) : Prop where
  scheme : ¬ schemeMark <:+: p.scheme
  seeds : '@' ∉ p.seeds ∧ '?' ∉ p.seeds
  database : ∀ name ∈ p.database, '@' ∉ name ∧ '?' ∉ name
  options : ∀ option ∈ before ++ after, '@' ∉ option

section Options

variable {p : Parts} {before after : List (List Char)} {key : List Char}

/-- What stands before the options. -/
theorem Parts.Undelimited.location (h : p.Undelimited before after) :
    '@' ∉ p.seeds ++ tailText '/' p.database ∧ '?' ∉ p.seeds ++ tailText '/' p.database := by
  have database := h.database
  cases hd : p.database with
  | none => simp [tailText, h.seeds]
  | some name =>
    rw [hd] at database
    simp [tailText, h.seeds, database name rfl]

/-- Without an `@` in the value, the text is cut into the parts that it was put together from. Only its
location may be cut elsewhere, as slashes are allowed in the seeds. -/
theorem Parts.ofChars?_textWith (h : p.Undelimited before after)
    (sensitive : key.map Char.toLower ∈ sensitiveKeys) {value : List Char} (noAt : '@' ∉ value) :
    Parts.ofChars? (p.textWith before key value after).toList =
      some { Parts.ofRest p.scheme (p.seeds ++ tailText '/' p.database) with
        userinfo := p.userinfo
        options := some (join ['&'] (before ++ (key ++ '=' :: value) :: after)) } := by
  obtain ⟨noAtBefore, noQuestion⟩ := h.location
  have noAtOption : '@' ∉ key ++ '=' :: value := by
    have noAtKey : '@' ∉ key := fun hc => absurd (isAlpha_of_sensitive sensitive hc) (by decide)
    simp [noAtKey, noAt]
  have noAtOptions : '@' ∉ join ['&'] (before ++ (key ++ '=' :: value) :: after) := by
    apply Text.not_mem_join (by decide)
    intro option hoption
    rcases List.mem_append.1 hoption with hbefore | hrest
    · exact h.options option (List.mem_append_left _ hbefore)
    rcases List.mem_cons.1 hrest with rfl | hafter
    · exact noAtOption
    · exact h.options option (List.mem_append_right _ hafter)
  have noAtLocation : '@' ∉ p.seeds ++ tailText '/' p.database ++
      '?' :: join ['&'] (before ++ (key ++ '=' :: value) :: after) := by
    rw [List.mem_append, not_or]
    exact ⟨noAtBefore, by simp [noAtOptions]⟩
  rw [p.toList_textWith, Parts.ofChars?_scheme h.scheme, Parts.ofRest_leadText _ _ noAtLocation]
  -- Both locations have the same text before the question mark.
  have long := cutTail_tailText noQuestion (some (join ['&'] (before ++ (key ++ '=' :: value) :: after)))
  have short := cutTail_tailText noQuestion none
  simp only [tailText_some] at long
  rw [tailText_none, List.append_nil] at short
  have noMark := Text.cutLast_eq_none.2 noAtLocation
  have noMark' := Text.cutLast_eq_none.2 noAtBefore
  simp only [Parts.ofRest, cutUserinfo, noMark, noMark', long, short]

/-- With an `@` in the value, all before the last one is taken for user information. -/
theorem Parts.ofChars?_textWith_at (h : p.Undelimited before after) (key shown : List Char)
    {rest : List Char} (noAt : '@' ∉ rest) :
    Parts.ofChars? (p.textWith before key (shown ++ '@' :: rest) after).toList =
      some { Parts.ofRest p.scheme (join ['&'] (rest :: after)) with
        userinfo := some (p.upToValue before key shown) } := by
  have noAtLocation : '@' ∉ join ['&'] (rest :: after) := by
    apply Text.not_mem_join (by decide)
    intro option hoption
    rcases List.mem_cons.1 hoption with rfl | hafter
    · exact noAt
    · exact h.options option (List.mem_append_right _ hafter)
  have text : (p.textWith before key (shown ++ '@' :: rest) after).toList =
      p.scheme ++ schemeMark ++
        (leadText (some (p.upToValue before key shown)) ++ join ['&'] (rest :: after)) := by
    have cut := Text.join_cut ['&'] before (key ++ '=' :: shown ++ ['@']) rest after
    have last := Text.join_cut ['&'] before (key ++ '=' :: shown) ['@'] []
    simp only [List.append_assoc, List.cons_append, List.nil_append, join] at cut last
    rw [last] at cut
    rw [p.toList_textWith, cut]
    simp [leadText, Parts.upToValue]
  rw [text, Parts.ofChars?_scheme h.scheme, Parts.ofRest_leadText _ _ noAtLocation]

/-- The value of a sensitive option does not show as long as it holds no `@`. If it holds one, all before the
last one shows up to the first colon, from the scheme on. -/
theorem redact_withOption (h : p.Undelimited before after)
    (sensitive : key.map Char.toLower ∈ sensitiveKeys) :
    (∀ value other, '&' ∉ value → '&' ∉ other → '@' ∉ value → '@' ∉ other →
      redact (p.textWith before key value after) = redact (p.textWith before key other after)) ∧
    ∀ shown rest, '@' ∉ rest →
      p.scheme ++ schemeMark ++ maskUserinfo (p.upToValue before key shown) ++ ['@'] <+:
        (redact (p.textWith before key (shown ++ '@' :: rest) after)).redacted.toList := by
  constructor
  · intro value other one oneOther noAt noAtOther
    apply redact_eq_of_mask (Parts.ofChars?_textWith h sensitive noAt)
      (Parts.ofChars?_textWith h sensitive noAtOther)
    simp only [Parts.mask, Option.map_some, maskOptions_join, List.map_append, List.map_cons,
      maskOptions_sensitive sensitive one, maskOptions_sensitive sensitive oneOther]
  · intro shown rest noAt
    have shows := prefix_redacted (Parts.ofChars?_textWith_at h key shown noAt) rfl
    exact shows

end Options

/-- A connection string with a user, two servers and a database. -/
def clusterParts : Parts :=
  ⟨"mongodb+srv".toList, some "app:pw".toList, "a.example.com:27017,b.example.com".toList,
    some "db".toList, none⟩

/-- A token with delimiters does not show between two other options, in any letter case of its key. -/
theorem redact_withOption_token :
    redact (clusterParts.textWith ["tls=true".toList] "ToKeN".toList "a/b?c=d:e".toList ["w=1".toList]) =
        redact (clusterParts.textWith ["tls=true".toList] "ToKeN".toList [] ["w=1".toList]) ∧
      "mongodb+srv://app:***@".toList <+:
        (redact (clusterParts.textWith ["tls=true".toList] "ToKeN".toList "a@b".toList
          ["w=1".toList])).redacted.toList := by
  have undelimited : clusterParts.Undelimited ["tls=true".toList] ["w=1".toList] :=
    ⟨by decide, by decide, by decide, by decide⟩
  have sensitive : "ToKeN".toList.map Char.toLower ∈ sensitiveKeys := by decide
  obtain ⟨hidden, shown⟩ := redact_withOption undelimited sensitive
  exact ⟨hidden _ _ (by decide) (by decide) (by decide) (by decide), shown "a".toList "b".toList (by decide)⟩

/-- Parts without user information and options. -/
def plainParts : Parts := ⟨"mongodb".toList, none, "localhost".toList, some "db".toList, none⟩

/-- A password that is given as an option and holds an `@` shows as it is, while another one is masked. -/
theorem redacted_option_at :
    plainParts.Undelimited [] [] ∧ "password".toList.map Char.toLower ∈ sensitiveKeys ∧
      '&' ∉ "a@b".toList ∧ '&' ∉ "x".toList ∧
      plainParts.textWith [] "password".toList "a@b".toList [] = "mongodb://localhost/db?password=a@b" ∧
      plainParts.textWith [] "password".toList "x".toList [] = "mongodb://localhost/db?password=x" ∧
      (redact "mongodb://localhost/db?password=a@b").redacted = "mongodb://localhost/db?password=a@b" ∧
      (redact "mongodb://localhost/db?password=x").redacted = "mongodb://localhost/db?password=***" ∧
      (redact "mongodb://localhost/db?password=a@b").redacted ≠
        (redact "mongodb://localhost/db?password=x").redacted := by
  refine ⟨⟨by decide, by decide, by decide, by decide⟩, ?_⟩
  decide +kernel

end Fixtures.Connection
