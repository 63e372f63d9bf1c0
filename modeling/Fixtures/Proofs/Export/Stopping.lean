import Fixtures.Proofs.Export.Inserting
import Mathlib.Algebra.Ring.Nat

/-!
# Exports that stop

An export into a sink of any kind goes on as long as files can be read and inserts are accepted, and stops at
the first file or insert for which this is not so. `exportAll_stops` says which inserts were attempted by then,
what the sink answered, and what is reported of an export that reaches its end.

## Shape of the proof

`Sink.recording` is a sink that answers from a state of its own and keeps an account of what was attempted.
There are three ways for an export to go: `AllInserted`, `Unread` and `Refused`. That one of them holds is
`exists_way`, by induction on the files; what the export does in each of them follows from `exportFiles_loaded`,
which cuts off the files that were inserted whole.
-/

namespace Fixtures.Export

open Runs

/-! ## Accounts -/

/-- An insert that was attempted, with the answer of the sink. -/
structure Attempt where
  collection : String
  document : Document
  answer : Except ExportError Unit

/-- How a sink takes an insert: its answer, and the state behind it. -/
abbrev Taking (τ : Type) := τ → String × Document → Except ExportError Unit × τ

/-- A sink that takes inserts in the given way, and keeps an account of all that were attempted. -/
def Sink.recording {τ : Type} {m : Type → Type} [Monad m] (take : Taking τ) :
    Sink (StateT (τ × List Attempt) m) where
  insert collection document := ExceptT.mk fun (s, account) =>
    let (answer, s') := take s (collection, document)
    pure (answer, s', account ++ [⟨collection, document, answer⟩])

/-- An insert that was accepted. -/
def Attempt.accepted (x : String × Document) : Attempt := ⟨x.1, x.2, .ok ()⟩

/-- An insert that was refused. -/
def Attempt.refused (x : String × Document) (e : ExportError) : Attempt := ⟨x.1, x.2, .error e⟩

section Taking

variable {τ : Type} (take : Taking τ)

/-- The state of a sink behind some inserts. -/
def behind (s : τ) (inserts : List (String × Document)) : τ := inserts.foldl (fun s x => (take s x).2) s

/-- Whether a sink accepts some inserts, one after another. -/
def AcceptsAll : τ → List (String × Document) → Prop
  | _, [] => True
  | s, x :: rest => (take s x).1 = .ok () ∧ AcceptsAll (take s x).2 rest

theorem behind_append (s : τ) (first second : List (String × Document)) :
    behind take s (first ++ second) = behind take (behind take s first) second := List.foldl_append

theorem acceptsAll_append {s : τ} {first second : List (String × Document)} :
    AcceptsAll take s (first ++ second) ↔
      AcceptsAll take s first ∧ AcceptsAll take (behind take s first) second := by
  induction first generalizing s with
  | nil => exact ⟨fun h => ⟨trivial, h⟩, And.right⟩
  | cons x rest ih => exact (and_congr_right fun _ => ih).trans and_assoc.symm

/-- Either all inserts are accepted, or there is a first one that is refused. -/
theorem acceptsAll_or_exists_refused (s : τ) (inserts : List (String × Document)) :
    AcceptsAll take s inserts ∨ ∃ front x back e, inserts = front ++ x :: back ∧
      AcceptsAll take s front ∧ (take (behind take s front) x).1 = .error e := by
  induction inserts generalizing s with
  | nil => exact .inl trivial
  | cons x rest ih =>
    rcases hx : (take s x).1 with e | _
    · exact .inr ⟨[], x, rest, e, rfl, trivial, hx⟩
    · rcases ih (take s x).2 with all | ⟨front, y, back, e, rfl, accepted, refused⟩
      · exact .inl ⟨hx, all⟩
      · exact .inr ⟨x :: front, y, back, e, rfl, ⟨hx, accepted⟩, refused⟩

/-! ## Inserting -/

theorem insert_recording (x : String × Document) (s : τ) (account : List Attempt) (w : Workspace) :
    (Sink.recording (m := StateM Workspace) take).insert x.1 x.2 (s, account) w =
      (((take s x).1, (take s x).2, account ++ [⟨x.1, x.2, (take s x).1⟩]), w) := rfl

variable {take}

theorem insertAll_accepted {collection : String} {documents : List Document} {s : τ}
    (h : AcceptsAll take s (documents.map (collection, ·))) (account : List Attempt) (w : Workspace) :
    insertAll (Sink.recording (m := StateM Workspace) take) collection documents (s, account) w =
      ((.ok (), behind take s (documents.map (collection, ·)),
        account ++ (documents.map (collection, ·)).map .accepted), w) := by
  induction documents generalizing s account with
  | nil =>
    rw [List.map_nil, List.map_nil, List.append_nil]
    rfl
  | cons document rest ih =>
    obtain ⟨first, others⟩ := h
    have inserted := insert_recording take (collection, document) s account w
    rw [first] at inserted
    rw [insertAll, beside_bind inserted, ih others, List.append_assoc]
    rfl

theorem insertAll_refused {collection : String} {front : List Document} {document : Document} {s : τ}
    {e : ExportError} (back : List Document) (h : AcceptsAll take s (front.map (collection, ·)))
    (refused : (take (behind take s (front.map (collection, ·))) (collection, document)).1 = .error e)
    (account : List Attempt) (w : Workspace) :
    ∃ s', insertAll (Sink.recording (m := StateM Workspace) take) collection (front ++ document :: back)
        (s, account) w =
      ((.error e, s', account ++ (front.map (collection, ·)).map .accepted ++
        [.refused (collection, document) e]), w) := by
  induction front generalizing s account with
  | nil =>
    have inserted := insert_recording take (collection, document) s account w
    rw [show (take s (collection, document)).1 = .error e from refused] at inserted
    rw [List.nil_append, insertAll, beside_bind_error inserted]
    exact ⟨_, by rw [List.map_nil, List.map_nil, List.append_nil]; rfl⟩
  | cons first front ih =>
    obtain ⟨accepted, others⟩ := h
    have inserted := insert_recording take (collection, first) s account w
    rw [accepted] at inserted
    obtain ⟨s', run⟩ := ih others refused (account ++ [⟨collection, first, .ok ()⟩])
    refine ⟨s', ?_⟩
    rw [List.cons_append, insertAll, beside_bind inserted, run, List.append_assoc account]
    rfl

end Taking

/-! ## Reading -/

/-- What reading a document file of a workspace gives. -/
def contents (w : Workspace) (file : DocumentFile) : Except ExportError (List Document) :=
  ((DocumentFile.readDocuments file.path : ExceptT ExportError (StateM Workspace) (List Document)) w).1

/-- What a scan of a directory of a workspace gives. -/
def scanned (w : Workspace) (dir : String) : Except ExportError (List DocumentFile) :=
  ((DocumentFile.scan dir : ExceptT ExportError (StateM Workspace) (List DocumentFile)) w).1

section Questions

variable {τ : Type}

theorem asks_readText (path : String) :
    Asks (Files.readText path : ExceptT Files.Fault (StateT τ (StateM Workspace)) String)
      (Files.readText path) := by
  refine Asks.bind (fun _ _ => ⟨rfl, rfl⟩) fun content => ?_
  cases content <;> exact fun _ _ => ⟨rfl, rfl⟩

theorem asks_readDocuments (path : String) :
    Asks (DocumentFile.readDocuments path : ExceptT ExportError (StateT τ (StateM Workspace)) (List Document))
      (DocumentFile.readDocuments path) := by
  refine ((asks_readText path).adapt ExportError.files).bind fun text => ?_
  cases DocumentFile.ofText path text <;> exact fun _ _ => ⟨rfl, rfl⟩

theorem readDocuments_of_contents {w : Workspace} {file : DocumentFile}
    {result : Except ExportError (List Document)} (h : contents w file = result) (t : τ) :
    (DocumentFile.readDocuments file.path :
      ExceptT ExportError (StateT τ (StateM Workspace)) (List Document)) t w = ((result, t), w) :=
  h ▸ (asks_readDocuments file.path t w).1

theorem asks_scan (dir : String) :
    Asks (DocumentFile.scan dir : ExceptT ExportError (StateT τ (StateM Workspace)) (List DocumentFile))
      (DocumentFile.scan dir) := by
  refine Asks.bind (fun _ _ => ⟨rfl, rfl⟩) fun there => ?_
  split
  · refine Asks.bind (Asks.adapt ?_ ExportError.files) fun names => ?_
    · exact fun _ _ => ⟨rfl, rfl⟩
    refine (Asks.filterM (fun name => ?_) names).bind fun files => Asks.pure _
    exact fun _ _ => ⟨rfl, rfl⟩
  · exact Asks.throw _

theorem scan_of_scanned {w : Workspace} {dir : String} {result : Except ExportError (List DocumentFile)}
    (h : scanned w dir = result) (t : τ) :
    (DocumentFile.scan dir : ExceptT ExportError (StateT τ (StateM Workspace)) (List DocumentFile)) t w =
      ((result, t), w) :=
  h ▸ (asks_scan dir t w).1

end Questions

/-! ## The ways of an export -/

section Ways

variable {τ : Type} (take : Taking τ) (s : τ) (w : Workspace)

/-- Some files can all be read, as the given loads, and all their documents are accepted. -/
structure AllInserted (files : List DocumentFile) (loads : List Load) : Prop where
  files_eq : loads.map (·.1) = files
  read : ∀ load ∈ loads, contents w load.1 = .ok load.2
  accepted : AcceptsAll take s (loads.flatMap Load.inserts)

/-- One of some files cannot be read, after those before it were inserted. -/
structure Unread (files : List DocumentFile) (loads : List Load) (file : DocumentFile) (e : ExportError) :
    Prop where
  before : ∃ earlier later, files = earlier ++ file :: later ∧ AllInserted take s w earlier loads
  fails : contents w file = .error e

/-- One of the documents of some files is refused, after those before it were accepted: `inserts` are the documents
of the files before its own and then those of its own file that stand before it. -/
structure Refused (files : List DocumentFile) (inserts : List (String × Document)) (x : String × Document)
    (e : ExportError) : Prop where
  before : ∃ earlier file later loads documents front back, files = earlier ++ file :: later ∧
    AllInserted take s w earlier loads ∧ contents w file = .ok documents ∧
    documents.map (file.collection, ·) = front ++ x :: back ∧ inserts = loads.flatMap Load.inserts ++ front
  accepted : AcceptsAll take s inserts
  fails : (take (behind take s inserts) x).1 = .error e

variable {take s w}

theorem AllInserted.cons {file : DocumentFile} {files : List DocumentFile} {documents : List Document}
    {loads : List Load} (read : contents w file = .ok documents)
    (accepted : AcceptsAll take s (documents.map (file.collection, ·)))
    (rest : AllInserted take (behind take s (documents.map (file.collection, ·))) w files loads) :
    AllInserted take s w (file :: files) ((file, documents) :: loads) where
  files_eq := congrArg (file :: ·) rest.files_eq
  read := List.forall_mem_cons.2 ⟨read, rest.read⟩
  accepted := (acceptsAll_append take).2 ⟨accepted, rest.accepted⟩

/-- There are three ways for an export to go. -/
theorem exists_way (take : Taking τ) (s : τ) (w : Workspace) (files : List DocumentFile) :
    (∃ loads, AllInserted take s w files loads) ∨ (∃ loads file e, Unread take s w files loads file e) ∨
      ∃ inserts x e, Refused take s w files inserts x e := by
  induction files generalizing s with
  | nil => exact .inl ⟨[], rfl, fun _ h => absurd h List.not_mem_nil, trivial⟩
  | cons file rest ih =>
    have nothing : AllInserted take s w [] [] := ⟨rfl, fun _ h => absurd h List.not_mem_nil, trivial⟩
    rcases read : contents w file with e | documents
    · exact .inr (.inl ⟨[], file, e, ⟨[], rest, rfl, nothing⟩, read⟩)
    rcases acceptsAll_or_exists_refused take s (documents.map (file.collection, ·)) with
      accepted | ⟨front, x, back, e, splits, accepted, fails⟩
    -- With this file inserted, the export goes the way of the other files, with one more file in front.
    · rcases ih (behind take s (documents.map (file.collection, ·))) with ⟨loads, all⟩ |
        ⟨loads, unread, e, ⟨earlier, later, rfl, before⟩, fails⟩ |
        ⟨_, x, e, ⟨earlier, own, later, loads, own', front, back, rfl, before, read', splits, rfl⟩, accepted',
          fails⟩
      · exact .inl ⟨_, all.cons read accepted⟩
      · exact .inr (.inl ⟨_, unread, e, ⟨file :: earlier, later, rfl, before.cons read accepted⟩, fails⟩)
      · refine .inr (.inr ⟨_, x, e, ⟨file :: earlier, own, later, _, own', front, back, rfl,
          before.cons read accepted, read', splits, rfl⟩, ?_, ?_⟩)
        · rw [List.flatMap_cons, List.append_assoc]
          exact (acceptsAll_append take).2 ⟨accepted, accepted'⟩
        · rw [List.flatMap_cons, List.append_assoc, behind_append]
          exact fails
    · exact .inr (.inr ⟨front, x, e,
        ⟨[], file, rest, [], documents, front, back, rfl, nothing, read, splits, rfl⟩, accepted, fails⟩)

/-! ## What the export does in each of them -/

theorem record_silent (filter : Log.Filter) (file : DocumentFile) (documents : List Document) (t : τ)
    (w : Workspace) :
    (liftM (Log.Journal.record ⟨filter, none⟩ (addingEvent file documents) : StateT τ (StateM Workspace) Unit) :
      ExceptT ExportError (StateT τ (StateM Workspace)) Unit) t w = ((.ok (), t), w) := rfl

/-- Files that are inserted whole come before whatever becomes of the others. -/
theorem exportFiles_loaded (filter : Log.Filter) {files : List DocumentFile} {loads : List Load}
    (h : AllInserted take s w files loads)
    {account : List Attempt} {more : List DocumentFile} {result : Except ExportError (List FileReport)}
    {t : τ × List Attempt}
    (others : exportFiles ⟨filter, none⟩ (Sink.recording (m := StateM Workspace) take) more
      (behind take s (loads.flatMap Load.inserts), account ++ (loads.flatMap Load.inserts).map .accepted) w =
        ((result, t), w)) :
    exportFiles ⟨filter, none⟩ (Sink.recording (m := StateM Workspace) take) (files ++ more) (s, account) w =
      ((result.map (loads.map Load.entry ++ ·), t), w) := by
  obtain ⟨rfl, read, accepted⟩ := h
  induction loads generalizing s account with
  | nil =>
    rw [List.flatMap_nil, List.map_nil, List.append_nil] at others
    rw [List.map_nil, List.nil_append]
    refine others.trans ?_
    cases result <;> rfl
  | cons load rest ih =>
    obtain ⟨readFirst, readRest⟩ := List.forall_mem_cons.1 read
    obtain ⟨first, rest'⟩ := (acceptsAll_append take).1 accepted
    rw [List.flatMap_cons, behind_append, List.map_append, ← List.append_assoc] at others
    have run := ih others readRest rest'
    rw [List.map_cons, List.cons_append, exportFiles, beside_bind (readDocuments_of_contents readFirst _),
      beside_bind (record_silent _ _ _ _ _), beside_bind (insertAll_accepted first account w)]
    cases result with
    | error e => exact beside_bind_error run _
    | ok entries => exact beside_bind run _

theorem exportFiles_allInserted (filter : Log.Filter) {files : List DocumentFile} {loads : List Load}
    (h : AllInserted take s w files loads) (account : List Attempt) :
    exportFiles ⟨filter, none⟩ (Sink.recording (m := StateM Workspace) take) files (s, account) w =
      ((.ok (loads.map Load.entry), behind take s (loads.flatMap Load.inserts),
        account ++ (loads.flatMap Load.inserts).map .accepted), w) := by
  have done : exportFiles ⟨filter, none⟩ (Sink.recording (m := StateM Workspace) take) []
      (behind take s (loads.flatMap Load.inserts), account ++ (loads.flatMap Load.inserts).map .accepted) w =
        ((.ok [], behind take s (loads.flatMap Load.inserts),
          account ++ (loads.flatMap Load.inserts).map .accepted), w) := rfl
  have run := exportFiles_loaded filter h done
  rwa [List.append_nil, Except.map, List.append_nil] at run

theorem exportFiles_unread (filter : Log.Filter) {files : List DocumentFile} {loads : List Load}
    {file : DocumentFile} {e : ExportError}
    (h : Unread take s w files loads file e) (account : List Attempt) :
    ∃ s', exportFiles ⟨filter, none⟩ (Sink.recording (m := StateM Workspace) take) files (s, account) w =
      ((.error e, s', account ++ (loads.flatMap Load.inserts).map .accepted), w) := by
  obtain ⟨⟨earlier, later, rfl, before⟩, fails⟩ := h
  have stop : exportFiles ⟨filter, none⟩ (Sink.recording (m := StateM Workspace) take) (file :: later)
      (behind take s (loads.flatMap Load.inserts), account ++ (loads.flatMap Load.inserts).map .accepted) w =
        ((.error e, behind take s (loads.flatMap Load.inserts),
          account ++ (loads.flatMap Load.inserts).map .accepted), w) := by
    rw [exportFiles]
    exact beside_bind_error (readDocuments_of_contents fails _) _
  exact ⟨_, exportFiles_loaded filter before stop⟩

theorem exportFiles_refused (filter : Log.Filter) {files : List DocumentFile} {inserts : List (String × Document)}
    {x : String × Document} {e : ExportError} (h : Refused take s w files inserts x e) (account : List Attempt) :
    ∃ s', exportFiles ⟨filter, none⟩ (Sink.recording (m := StateM Workspace) take) files (s, account) w =
      ((.error e, s', account ++ inserts.map .accepted ++ [.refused x e]), w) := by
  obtain ⟨⟨earlier, file, later, loads, documents, front, back, rfl, before, read, splits, rfl⟩, accepted,
    fails⟩ := h
  obtain ⟨-, accepted⟩ := (acceptsAll_append take).1 accepted
  rw [behind_append] at fails
  -- The documents of the file are those before the refused one, that one, and others.
  obtain ⟨fronts, rest, rfl, rfl, tail⟩ := List.map_eq_append_iff.1 splits
  obtain ⟨document, backs, rfl, rfl, -⟩ := List.map_eq_cons_iff.1 tail
  obtain ⟨s', inserted⟩ := insertAll_refused backs accepted fails
    (account ++ (loads.flatMap Load.inserts).map .accepted) w
  have failed : exportFiles ⟨filter, none⟩ (Sink.recording (m := StateM Workspace) take) (file :: later)
      (behind take s (loads.flatMap Load.inserts), account ++ (loads.flatMap Load.inserts).map .accepted) w =
        ((.error e, s', account ++ (loads.flatMap Load.inserts ++ fronts.map (file.collection, ·)).map .accepted ++
          [.refused (file.collection, document) e]), w) := by
    rw [exportFiles, beside_bind (readDocuments_of_contents read _), beside_bind (record_silent _ _ _ _ _),
      beside_bind_error inserted, List.map_append, ← List.append_assoc account]
  exact ⟨s', exportFiles_loaded filter before failed⟩

/-- An export of files leaves the workspace as it is, and which way it goes tells all it does. -/
theorem exportFiles_way (filter : Log.Filter) (take : Taking τ) (s : τ) (w : Workspace)
    (files : List DocumentFile) :
    ∃ (result : Except ExportError (List FileReport)) (s' : τ) (account : List Attempt),
      exportFiles ⟨filter, none⟩ (Sink.recording (m := StateM Workspace) take) files (s, []) w =
        ((result, s', account), w) ∧
      (∀ loads, AllInserted take s w files loads →
        result = .ok (loads.map Load.entry) ∧ account = (loads.flatMap Load.inserts).map .accepted) ∧
      (∀ loads file e, Unread take s w files loads file e →
        result = .error e ∧ account = (loads.flatMap Load.inserts).map .accepted) ∧
      ∀ inserts x e, Refused take s w files inserts x e →
        result = .error e ∧ account = inserts.map .accepted ++ [.refused x e] := by
  rcases run : exportFiles ⟨filter, none⟩ (Sink.recording (m := StateM Workspace) take) files (s, []) w with
    ⟨⟨result, s', account⟩, w'⟩
  -- One of the three ways is gone, and each was followed to its end before.
  have unchanged : w' = w := by
    rcases exists_way take s w files with ⟨_, way⟩ | ⟨_, _, _, way⟩ | ⟨_, _, _, way⟩
    · exact congrArg Prod.snd (run.symm.trans (exportFiles_allInserted filter way []))
    · obtain ⟨_, way⟩ := exportFiles_unread filter way []
      exact congrArg Prod.snd (run.symm.trans way)
    · obtain ⟨_, way⟩ := exportFiles_refused filter way []
      exact congrArg Prod.snd (run.symm.trans way)
  subst unchanged
  refine ⟨result, s', account, rfl, fun loads way => ?_, fun loads file e way => ?_, fun inserts x e way => ?_⟩
  · cases run.symm.trans (exportFiles_allInserted filter way [])
    exact ⟨rfl, rfl⟩
  · obtain ⟨_, way⟩ := exportFiles_unread filter way []
    cases run.symm.trans way
    exact ⟨rfl, rfl⟩
  · obtain ⟨_, way⟩ := exportFiles_refused filter way []
    cases run.symm.trans way
    exact ⟨rfl, rfl⟩

/-! ## The report -/

/-- The counts of the entries for a collection add up to the number of documents that went there. -/
theorem sum_entries (loads : List Load) (collection : String) :
    (((loads.map Load.entry).filter (·.collection = collection)).map (·.documents)).sum =
      (((loads.flatMap Load.inserts).map Attempt.accepted).filter (·.collection = collection)).length := by
  induction loads with
  | nil => rfl
  | cons load rest ih =>
    rw [List.flatMap_cons, List.map_append, List.filter_append, List.length_append, ← ih, List.map_cons]
    -- All documents of a load go to one collection.
    by_cases h : load.1.collection = collection
    · have own : ∀ attempt ∈ load.inserts.map Attempt.accepted, attempt.collection = collection := by
        simp [Load.inserts, Attempt.accepted, h]
      rw [List.filter_eq_self.2 fun attempt ha => decide_eq_true (own attempt ha)]
      simp [Load.entry, Load.inserts, h]
    · simp [Load.entry, Load.inserts, Attempt.accepted, h]

theorem documentsTotal_eq (loads : List Load) :
    (ExportReport.mk (loads.map Load.entry)).documentsTotal = (loads.flatMap Load.inserts).length := by
  have total (n : Nat) : (loads.map Load.entry).foldl (fun total c => total + c.documents) n =
      n + (loads.flatMap Load.inserts).length := by
    induction loads generalizing n with
    | nil => rfl
    | cons load rest ih =>
      rw [List.map_cons, List.foldl_cons, ih, List.flatMap_cons, List.length_append, Nat.add_assoc]
      simp [Load.entry, Load.inserts]
  exact (total 0).trans (Nat.zero_add _)

end Ways

/-! ## Stopping -/

/-- Whether an export fails, and at what: a scan that fails, a file that cannot be read after all documents of the
files before it were inserted, or an insert that is refused. By then all that comes before was attempted, in the
order of the files and of their documents, and accepted; of what comes later nothing was attempted. An export that
succeeds inserted every document once, and its report has an entry for each file, with the number of its
documents. -/
theorem exportAll_stops {τ : Type} (take : Taking τ) (filter : Log.Filter) (dir : String) (s : τ) (w : Workspace) :
    ∃ (result : Except ExportError ExportReport) (s' : τ) (account : List Attempt),
      exportAll ⟨filter, none⟩ dir (Sink.recording (m := StateM Workspace) take) (s, []) w =
        ((result, s', account), w) ∧
      ((∃ e, result = .error e) ↔ (∃ e, scanned w dir = .error e) ∨ ∃ files, scanned w dir = .ok files ∧
        ((∃ loads file e, Unread take s w files loads file e) ∨
          ∃ inserts x e, Refused take s w files inserts x e)) ∧
      (∀ e, scanned w dir = .error e → result = .error e ∧ account = []) ∧
      (∀ files, scanned w dir = .ok files →
        (∀ loads file e, Unread take s w files loads file e →
          result = .error e ∧ account = (loads.flatMap Load.inserts).map .accepted) ∧
        ∀ inserts x e, Refused take s w files inserts x e →
          result = .error e ∧ account = inserts.map .accepted ++ [.refused x e]) ∧
      ∀ report, result = .ok report → ∃ files loads, scanned w dir = .ok files ∧
        AllInserted take s w files loads ∧ account = (loads.flatMap Load.inserts).map .accepted ∧
        report.collections = loads.map Load.entry ∧
        (∀ collection, ((report.collections.filter (·.collection = collection)).map (·.documents)).sum =
          (account.filter (·.collection = collection)).length) ∧
        report.documentsTotal = account.length := by
  rcases found : scanned w dir with e | files
  · refine ⟨.error e, s, [], ?_, ?_⟩
    · rw [exportAll]
      exact beside_bind_error (scan_of_scanned found _) _
    · simp
  · obtain ⟨result, s', account, run, all, unread, refused⟩ := exportFiles_way filter take s w files
    refine ⟨result.map ExportReport.mk, s', account, ?_, ⟨?_, ?_⟩, by simp, ?_, ?_⟩
    · rw [exportAll, beside_bind (scan_of_scanned found _)]
      cases result with
      | error e => exact beside_bind_error run _
      | ok entries => exact beside_bind run _
    · rintro ⟨e, failed⟩
      rcases exists_way take s w files with ⟨loads, way⟩ | way | way
      · rw [(all loads way).1] at failed
        cases failed
      · exact .inr ⟨files, rfl, .inl way⟩
      · exact .inr ⟨files, rfl, .inr way⟩
    · rintro (⟨e, ⟨⟩⟩ | ⟨_, ⟨⟩, ⟨loads, file, e, way⟩ | ⟨inserts, x, e, way⟩⟩)
      · exact ⟨e, by rw [(unread _ _ _ way).1]; rfl⟩
      · exact ⟨e, by rw [(refused _ _ _ way).1]; rfl⟩
    · rintro _ ⟨⟩
      refine ⟨fun loads file e way => ?_, fun inserts x e way => ?_⟩
      · obtain ⟨rfl, rfl⟩ := unread _ _ _ way
        exact ⟨rfl, rfl⟩
      · obtain ⟨rfl, rfl⟩ := refused _ _ _ way
        exact ⟨rfl, rfl⟩
    · intro report succeeded
      rcases exists_way take s w files with ⟨loads, way⟩ | ⟨_, _, _, way⟩ | ⟨_, _, _, way⟩
      · obtain ⟨rfl, rfl⟩ := all loads way
        cases succeeded
        exact ⟨files, loads, rfl, way, rfl, rfl, sum_entries loads,
          (documentsTotal_eq loads).trans (List.length_map _).symm⟩
      · rw [(unread _ _ _ way).1] at succeeded
        cases succeeded
      · rw [(refused _ _ _ way).1] at succeeded
        cases succeeded

end Fixtures.Export
