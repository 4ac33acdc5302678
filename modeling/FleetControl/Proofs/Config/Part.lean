import FleetControl.Proofs.Config.Values

namespace FleetControl.Config

open Told

variable {t : Tree} {v : Json}

namespace EndpointPart

variable {p : EndpointPart}

theorem of_told (h : p.ToldBy Tree.told t) : t.endpoint = .ok p.fill := by
  obtain ⟨entries, ht, -, hurl, hkey, htimeout⟩ := h
  have hurl := Section.get_named hurl (fun _ _ ↦ Tree.text_of_told) 0 Endpoint.standard.url
  have hkey := Section.get_named hkey (fun _ _ ↦ Tree.option_of_told fun _ _ ↦ Tree.text_of_told)
    1 none
  have htimeout := Section.get_named htimeout (fun _ _ ↦ Tree.long_of_told) 2
    Endpoint.standard.connectTimeout
  rw [Tree.eq_table_of_told ht, Tree.endpoint, Section.ofTree, ok_bind, hurl, ok_bind, hkey, ok_bind,
    htimeout, ok_bind]
  simp [fill, Endpoint.standard, pure, Except.pure]

theorem read (h : p.ToldBy ofJson v) : Endpoint.reader .value v.draft = .ok p.fill := by
  obtain ⟨fields, hv, hd, hurl, hkey, htimeout⟩ := h
  have hurl := reads_defaulted hurl (fun _ _ ↦ text_read) Endpoint.standard.url
  have hkey := reads_defaulted hkey (fun _ _ ↦ option_read fun _ _ ↦ text_read) none
  have htimeout := reads_defaulted htimeout (fun _ _ ↦ long_read) Endpoint.standard.connectTimeout
  have hread := (((hurl.map Endpoint.mk).seq hkey).seq htimeout).reader hd "struct DeviceApiConfig"
  rw [object_of_told hv]
  refine hread.trans ?_
  simp [fill, Endpoint.standard]

end EndpointPart

namespace RetryPart

variable {p : RetryPart}

/-- A time limit for the whole request that is not told is not there. -/
theorem of_told (h : p.ToldBy Tree.told t) : t.policy = .ok (p.fill none) := by
  obtain ⟨entries, ht, -, hattempts, hmin, hmax, hattempt, hoverall⟩ := h
  have hattempts := Section.get_named hattempts (fun _ _ ↦ Tree.word_of_told) 0
    Retry.Policy.standard.maxAttempts
  have hmin := Section.get_named hmin (fun _ _ ↦ Tree.long_of_told) 1 Retry.Policy.standard.minWait
  have hmax := Section.get_named hmax (fun _ _ ↦ Tree.long_of_told) 2 Retry.Policy.standard.maxWait
  have hattempt := Section.get_named hattempt (fun _ _ ↦ Tree.long_of_told) 3
    Retry.Policy.standard.attemptTimeout
  have hoverall := Section.get_named hoverall
    (fun _ _ ↦ Tree.option_of_told fun _ _ ↦ Tree.long_of_told) 4 none
  rw [Tree.eq_table_of_told ht, Tree.policy, Section.ofTree, ok_bind]
  dsimp only
  rw [hattempts, ok_bind, hmin, ok_bind, hmax, ok_bind, hattempt, ok_bind, hoverall, ok_bind]
  rfl

theorem read (h : p.ToldBy ofJson v) : Retry.Policy.reader .value v.draft = .ok (p.fill none) := by
  obtain ⟨fields, hv, hd, hattempts, hmin, hmax, hattempt, hoverall⟩ := h
  have hattempts := reads_defaulted hattempts (fun _ _ ↦ word_read) Retry.Policy.standard.maxAttempts
  have hmin := reads_defaulted hmin (fun _ _ ↦ long_read) Retry.Policy.standard.minWait
  have hmax := reads_defaulted hmax (fun _ _ ↦ long_read) Retry.Policy.standard.maxWait
  have hattempt := reads_defaulted hattempt (fun _ _ ↦ long_read)
    Retry.Policy.standard.attemptTimeout
  have hoverall := reads_defaulted hoverall (fun _ _ ↦ option_read fun _ _ ↦ long_read) none
  have hreads := ((((hattempts.map Retry.Policy.mk).seq hmin).seq hmax).seq hattempt).seq hoverall
  rw [object_of_told hv]
  exact hreads.reader hd "struct RetryConfig"

theorem fill_eq_iff (limit : Span) :
    p.fill none = p.fill (some limit) ↔ p.overall ≠ none := by
  cases h : p.overall <;> simp [fill, h]

end RetryPart

namespace DispatcherPart

variable {p : DispatcherPart}

theorem of_told (h : p.ToldBy Tree.told t) : t.dispatcher = .ok p.fill := by
  obtain ⟨entries, ht, -, hconfirmed, hallowed, hlimit⟩ := h
  have hconfirmed := Section.get_named hconfirmed (fun _ _ ↦ Tree.actions_of_told) 0
    Dispatch.Settings.standard.confirmed
  have hallowed := Section.get_named hallowed
    (fun _ _ ↦ Tree.option_of_told fun _ _ ↦ Tree.actions_of_told) 1 none
  have hlimit := Section.get_named hlimit (fun _ _ ↦ Tree.long_of_told) 2
    Dispatch.Settings.standard.historyLimit
  rw [Tree.eq_table_of_told ht, Tree.dispatcher, Section.ofTree, ok_bind, hconfirmed, ok_bind,
    hallowed, ok_bind, hlimit, ok_bind]
  simp [fill, Dispatch.Settings.standard, pure, Except.pure]

theorem read (h : p.ToldBy ofJson v) : Dispatch.Settings.reader .value v.draft = .ok p.fill := by
  obtain ⟨fields, hv, hd, hconfirmed, hallowed, hlimit⟩ := h
  have hconfirmed := reads_defaulted hconfirmed (fun _ _ ↦ actions_read)
    Dispatch.Settings.standard.confirmed
  have hallowed := reads_defaulted hallowed (fun _ _ ↦ option_read fun _ _ ↦ actions_read) none
  have hlimit := reads_defaulted hlimit (fun _ _ ↦ count_read) Dispatch.Settings.standard.historyLimit
  have hreads := ((hconfirmed.map Dispatch.Settings.mk).seq hallowed).seq hlimit
  rw [object_of_told hv]
  refine (hreads.reader hd "struct DispatcherConfig").trans ?_
  simp [fill, Dispatch.Settings.standard]

end DispatcherPart

namespace QueryPart

variable {p : QueryPart}

theorem of_told (h : p.ToldBy Tree.told t) : t.query = .ok p.fill := by
  obtain ⟨entries, ht, -, hrows, hradius⟩ := h
  have hrows := Section.get_named hrows (fun _ _ ↦ Tree.word_of_told) 0
    Query.Settings.standard.maxRows
  have hradius := Section.get_named hradius (fun _ _ ↦ Tree.double_of_told) 1
    Query.Settings.standard.pointRadius
  rw [Tree.eq_table_of_told ht, Tree.query, Section.ofTree, ok_bind, hrows, ok_bind, hradius, ok_bind]
  simp [fill, pure, Except.pure]

theorem read (h : p.ToldBy ofJson v) : Query.Settings.reader .value v.draft = .ok p.fill := by
  obtain ⟨fields, hv, hd, hrows, hradius⟩ := h
  have hrows := reads_defaulted hrows (fun _ _ ↦ word_read) Query.Settings.standard.maxRows
  have hradius := reads_defaulted hradius (fun _ _ ↦ double_read) Query.Settings.standard.pointRadius
  have hreads := (hrows.map Query.Settings.mk).seq hradius
  rw [object_of_told hv]
  refine (hreads.reader hd "struct QueryConfig").trans ?_
  simp [fill]

end QueryPart

namespace DatabasePart

variable {p : DatabasePart}

theorem of_told (h : p.ToldBy Tree.told t) : t.database = .ok p.fill := by
  obtain ⟨entries, ht, -, hurl, hconnections⟩ := h
  have hurl := Section.get_named hurl (fun _ _ ↦ Tree.text_of_told) 0 Database.standard.url
  have hconnections := Section.get_named hconnections (fun _ _ ↦ Tree.word_of_told) 1
    Database.standard.maxConnections
  rw [Tree.eq_table_of_told ht, Tree.database, Section.ofTree, ok_bind, hurl, ok_bind, hconnections,
    ok_bind]
  simp [fill, pure, Except.pure]

theorem read (h : p.ToldBy ofJson v) : Database.reader .value v.draft = .ok p.fill := by
  obtain ⟨fields, hv, hd, hurl, hconnections⟩ := h
  have hurl := reads_defaulted hurl (fun _ _ ↦ text_read) Database.standard.url
  have hconnections := reads_defaulted hconnections (fun _ _ ↦ word_read)
    Database.standard.maxConnections
  have hreads := (hurl.map Database.mk).seq hconnections
  rw [object_of_told hv]
  refine (hreads.reader hd "struct DatabaseConfig").trans ?_
  simp [fill]

end DatabasePart

namespace Part

variable {p : Part}

theorem of_told (h : p.ToldBy Tree.told t) : t.settings = .ok (p.fill none) := by
  obtain ⟨entries, ht, -, hendpoint, hretry, hdispatcher, hquery, hdatabase⟩ := h
  have hendpoint := Section.get_named hendpoint (fun _ _ ↦ EndpointPart.of_told) 0 .standard
  have hretry := Section.get_named hretry (fun _ _ ↦ RetryPart.of_told) 1 .standard
  have hdispatcher := Section.get_named hdispatcher (fun _ _ ↦ DispatcherPart.of_told) 2 .standard
  have hquery := Section.get_named hquery (fun _ _ ↦ QueryPart.of_told) 3 .standard
  have hdatabase := Section.get_named hdatabase (fun _ _ ↦ DatabasePart.of_told) 4 .standard
  rw [Tree.eq_table_of_told ht, Tree.settings, Section.ofTree, ok_bind, hendpoint, ok_bind, hretry,
    ok_bind, hdispatcher, ok_bind, hquery, ok_bind, hdatabase, ok_bind]
  rfl

theorem loaded {file : Option String} {environment : List (String × String)} {told : Tree}
    (hfile : file.elim (.ok (.table [])) Tree.ofFile = .ok told)
    (h : p.ToldBy Tree.told (environment.foldl Tree.withVariable told)) :
    load file environment = .ok (p.fill none) := by
  rw [load, hfile, ok_bind, of_told h]
  rfl

theorem read (h : p.ToldBy ofJson v) :
    Json.readValue Settings.reader v = .ok (p.fill none) := by
  obtain ⟨fields, hv, hd, hendpoint, hretry, hdispatcher, hquery, hdatabase⟩ := h
  have hendpoint := reads_defaulted hendpoint (fun _ _ ↦ EndpointPart.read) .standard
  have hretry := reads_defaulted hretry (fun _ _ ↦ RetryPart.read) .standard
  have hdispatcher := reads_defaulted hdispatcher (fun _ _ ↦ DispatcherPart.read) .standard
  have hquery := reads_defaulted hquery (fun _ _ ↦ QueryPart.read) .standard
  have hdatabase := reads_defaulted hdatabase (fun _ _ ↦ DatabasePart.read) .standard
  have hreads :=
    ((((hendpoint.map Settings.mk).seq hretry).seq hdispatcher).seq hquery).seq hdatabase
  rw [object_of_told hv]
  exact hreads.reader hd "struct AppConfig"

theorem fill_eq_iff (limit : Span) :
    p.fill none = p.fill (some limit) ↔ ∀ r, p.retry = some r → r.overall ≠ none := by
  cases hr : p.retry with
  | none => simp [fill, hr]
  | some r => simp [fill, hr, RetryPart.fill_eq_iff]

end Part

/-- The settings are those that are told, and else those that are built in, from a tree of keys, from a
file and the environment, and from a value in memory. A section of retries that is told without a time
limit for the whole request has none; the built-in limit stays exactly where no such section is told. -/
theorem settings_of_part (p : Part) :
    (∀ t : Tree, p.ToldBy Tree.told t → t.settings = .ok (p.fill none)) ∧
    (∀ file environment told, file.elim (.ok (.table [])) Tree.ofFile = .ok told →
      p.ToldBy Tree.told (environment.foldl Tree.withVariable told) →
      load file environment = .ok (p.fill none)) ∧
    (∀ v : Json, p.ToldBy ofJson v → Json.readValue Settings.reader v = .ok (p.fill none)) ∧
    (p.fill none = p.fill Retry.Policy.standard.overall ↔
      ∀ r, p.retry = some r → r.overall ≠ none) :=
  ⟨fun _ ↦ Part.of_told, fun _ _ _ ↦ Part.loaded, fun _ ↦ Part.read, Part.fill_eq_iff 60000⟩

def tuned : Part where
  endpoint := none
  retry := some
    { maxAttempts := some 5, minWait := some 250, maxWait := none, attemptTimeout := none,
      overall := none }
  dispatcher := some
    { confirmed := some [.takeoff], allowed := some (some [.takeoff, .moveTo]), historyLimit := none }
  query := some { maxRows := some 200, pointRadius := none }
  database := none

def tunedFile : String :=
  "[retry]\nmax_attempts = 5\nmin_wait = 250\n\n" ++
  "[dispatcher]\nconfirmation_required = [\"takeoff\"]\n" ++
  "allowed_actions = [\"takeoff\", \"move_to\"]\n\n" ++
  "[query]\nmax_rows = 200\n"

def tunedTree : Tree :=
  .table
    [("retry", .table
      [("max_attempts", .leaf .file (.int 5)), ("min_wait", .leaf .file (.int 250))]),
     ("dispatcher", .table
      [("confirmation_required", .list (some .file) [.leaf .file (.text "takeoff")]),
       ("allowed_actions", .list (some .file)
        [.leaf .file (.text "takeoff"), .leaf .file (.text "move_to")])]),
     ("query", .table [("max_rows", .leaf .file (.int 200))])]

def tunedValue : Json :=
  .object
    [("retry", .object [("max_attempts", .number (.int 5)), ("min_wait", .number (.int 250))]),
     ("dispatcher", .object
      [("confirmation_required", .list [.text "takeoff"]),
       ("allowed_actions", .list [.text "takeoff", .text "move_to"])]),
     ("query", .object [("max_rows", .number (.int 200))])]

theorem tunedTree_tells : tuned.ToldBy Tree.told tunedTree := by
  simp [tuned, tunedTree, Part.ToldBy, RetryPart.ToldBy, DispatcherPart.ToldBy, QueryPart.ToldBy,
    IsTable, IsUnder, IsOption, IsActions, IsNat, Tree.told, Command.Action.name,
    List.lookup_cons, -List.lookup_eq_none_iff]

theorem tunedValue_tells : tuned.ToldBy ofJson tunedValue := by
  simp [tuned, tunedValue, Part.ToldBy, RetryPart.ToldBy, DispatcherPart.ToldBy, QueryPart.ToldBy,
    IsTable, IsUnder, IsOption, IsActions, IsNat, ofJson, Command.Action.name,
    List.lookup_cons, -List.lookup_eq_none_iff]

theorem ofFile_tunedFile : Tree.ofFile tunedFile = .ok tunedTree := by
  have hfile : (Tree.ofFile tunedFile).toOption = some tunedTree := by decide +kernel
  cases hread : Tree.ofFile tunedFile with
  | error error => simp [hread, Except.toOption] at hfile
  | ok t =>
    simp only [hread, Except.toOption, Option.some.injEq] at hfile
    rw [hfile]

theorem elim_tunedFile :
    (some tunedFile).elim (.ok (.table [])) Tree.ofFile = .ok tunedTree := by
  rw [Option.elim_some, ofFile_tunedFile]

theorem settings_of_part_tuned :
    tuned.ToldBy Tree.told tunedTree ∧ tunedTree.settings = .ok (tuned.fill none) ∧
    Tree.ofFile tunedFile = .ok tunedTree ∧ load (some tunedFile) [] = .ok (tuned.fill none) ∧
    tuned.ToldBy ofJson tunedValue ∧
    Json.readValue Settings.reader tunedValue = .ok (tuned.fill none) := by
  obtain ⟨htree, hload, hvalue, -⟩ := settings_of_part tuned
  exact ⟨tunedTree_tells, htree tunedTree tunedTree_tells, ofFile_tunedFile,
    hload (some tunedFile) [] tunedTree elim_tunedFile tunedTree_tells, tunedValue_tells,
    hvalue tunedValue tunedValue_tells⟩

/-- Keys that are told take away the built-in time limit of a request. -/
theorem limit_taken_away :
    tuned.ToldBy Tree.told tunedTree ∧
    tunedTree.settings ≠ .ok (tuned.fill Retry.Policy.standard.overall) ∧
    Tree.ofFile tunedFile = .ok tunedTree ∧
    load (some tunedFile) [] ≠ .ok (tuned.fill Retry.Policy.standard.overall) ∧
    tuned.ToldBy ofJson tunedValue ∧
    Json.readValue Settings.reader tunedValue ≠ .ok (tuned.fill Retry.Policy.standard.overall) := by
  have hne : tuned.fill none ≠ tuned.fill Retry.Policy.standard.overall := by
    have huntold : ¬ ∀ r, tuned.retry = some r → r.overall ≠ none := fun h ↦ h _ rfl rfl
    exact mt (Part.fill_eq_iff 60000).mp huntold
  refine ⟨tunedTree_tells, ?_, ofFile_tunedFile, ?_, tunedValue_tells, ?_⟩
  · rwa [Part.of_told tunedTree_tells, ne_eq, Except.ok.injEq]
  · rwa [Part.loaded elim_tunedFile tunedTree_tells, ne_eq, Except.ok.injEq]
  · rwa [Part.read tunedValue_tells, ne_eq, Except.ok.injEq]

end FleetControl.Config
