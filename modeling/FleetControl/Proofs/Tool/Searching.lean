import FleetControl.Proofs.Query.Passing
import FleetControl.Rehearsal.Session
import FleetControl.Store.Exchange
import FleetControl.Tool.Run

namespace FleetControl.Query

variable {settings : Settings} {d : Description} {q : Compiled} {parts : Parts}

/-- A query that may be run: its table is known, its statement passes the scan, and its last value is a
limit on the rows that the settings allow. -/
structure Vetted (settings : Settings) (q : Compiled) : Prop where
  table : (Table.find? q.table).isSome = true
  statement : Scan.checkStatement q.statement = .ok ()
  limited : q.binds.getLast? = some (.int q.limit)
  positive : 1 ≤ q.limit
  allowed : q.limit ≤ settings.maxRows

theorem Compiled.check_ok : q.check = .ok () ↔
    (Table.find? q.table).isSome = true ∧ Scan.checkStatement q.statement = .ok () := by
  unfold check Scan.check
  cases Table.find? q.table <;> simp

theorem Description.rowLimit_bounds (hrows : 1 ≤ settings.maxRows) {limit : ℕ}
    (h : d.rowLimit settings = .ok limit) : 1 ≤ limit ∧ limit ≤ settings.maxRows := by
  unfold rowLimit at h
  split at h
  · obtain rfl := Except.ok.inj h
    exact ⟨hrows, Nat.le_refl _⟩
  · cases h
  · rename_i n hzero _
    obtain rfl := Except.ok.inj h
    have hn : n ≠ 0 := fun hn ↦ hzero (by simp [hn])
    exact ⟨Nat.le_min.mpr ⟨Nat.pos_of_ne_zero hn, hrows⟩, Nat.min_le_right _ _⟩

theorem Description.prepare_ok (h : d.prepare settings = .ok q) :
    d.compile settings = .ok q ∧ q.check = .ok () := by
  unfold prepare at h
  cases hq : d.compile settings with
  | error error => simp [hq] at h
  | ok q' =>
    cases hc : q'.check with
    | error reason => simp [hq, hc] at h
    | ok =>
      simp only [hq, hc, Except.ok.injEq] at h
      exact ⟨congrArg _ h, h ▸ hc⟩

theorem Description.prepare_of_compile (h : d.compile settings = .ok q) :
    d.prepare settings = .ok q := by
  obtain ⟨parts, hg, rfl⟩ := compile_ok.mp h
  simp [prepare, h, hg.check]

theorem Description.vetted_of_prepare (hrows : 1 ≤ settings.maxRows)
    (h : d.prepare settings = .ok q) : Vetted settings q := by
  obtain ⟨hq, hc⟩ := prepare_ok h
  obtain ⟨parts, hg, rfl⟩ := compile_ok.mp hq
  obtain ⟨htable, hstatement⟩ := Compiled.check_ok.mp hc
  obtain ⟨hpositive, hallowed⟩ := rowLimit_bounds hrows hg.limit
  exact ⟨htable, hstatement, List.getLast?_concat, hpositive, hallowed⟩

end FleetControl.Query

namespace FleetControl.Store

variable {db : Database} {q : Query.Compiled}

theorem execute_refused {reason : Query.Refusal} (h : q.check = .error reason) (db : Database) :
    execute db q = .refused (.refused reason) := by
  simp [execute, h]

theorem exchanges_execute (h : q.check = .ok ()) (db : Database) : (execute db q).exchanges =
    [⟨⟨q.statement, q.binds⟩, db ⟨q.statement, q.binds⟩⟩] := by
  simp [execute, h, send]

theorem search_refused {settings : Query.Settings} {d : Query.Description} {error : Service.Error}
    (h : d.prepare settings = .error error) (db : Database) :
    search settings db d = .refused error := by
  simp [search, h]

theorem exchanges_search {settings : Query.Settings} {d : Query.Description}
    (h : d.prepare settings = .ok q) (db : Database) : (search settings db d).exchanges =
      [⟨⟨q.statement, q.binds⟩, db ⟨q.statement, q.binds⟩⟩] := by
  have hcheck := (Query.Description.prepare_ok h).2
  simp only [search, h]
  exact exchanges_execute hcheck db

end FleetControl.Store

namespace FleetControl.Tool

open Dispatch (System)

variable {setup : Setup} {asked : Search} {s : System} {fresh : Identifier} {now : Instant}
  {q : Query.Compiled}

theorem Call.start_search_error {error : Service.Error}
    (h : asked.query.prepare setup.query = .error error) (s : System) (fresh : Identifier)
    (now : Instant) : (Call.search asked).start setup s fresh now = (s, .failed error) := by
  simp [Call.start, h]

theorem Call.start_search_ok (h : asked.query.prepare setup.query = .ok q) (s : System)
    (fresh : Identifier) (now : Instant) : (Call.search asked).start setup s fresh now =
      (s, if asked.dryRun then .done q.toJson else .errand (.search q)) := by
  simp [Call.start, h]

def ranAt (time : Span) (q : Query.Compiled) : Rehearsal.Noted :=
  ⟨time, "", "execute", [("query", q.toJson)]⟩

/-- What a search may come to when it is started: it turns to the store once at most, and only with a
query that is vetted. -/
structure Search.Vetted (settings : Query.Settings) (asked : Search) (progress : Progress) :
    Prop where
  single : progress.searches.length ≤ 1
  vetted : ∀ q ∈ progress.searches, asked.dryRun = false ∧
    asked.query.prepare settings = .ok q ∧ Query.Vetted settings q
  refused : ∀ error, asked.query.prepare settings = .error error → progress = .failed error
  dry : asked.dryRun = true → ∃ answer, progress = .answered answer

theorem Search.vetted_failed {error : Service.Error}
    (h : asked.query.prepare setup.query = .error error) :
    asked.Vetted setup.query (.failed error) where
  single := Nat.zero_le 1
  vetted q hm := by cases hm
  refused _ he := congrArg Progress.failed (Except.error.inj (h.symm.trans he))
  dry _ := ⟨.error error, rfl⟩

theorem Search.vetted_done (h : asked.query.prepare setup.query = .ok q) :
    asked.Vetted setup.query (.done q.toJson) where
  single := Nat.zero_le 1
  vetted q hm := by cases hm
  refused _ he := by cases h.symm.trans he
  dry _ := ⟨.ok q.toJson, rfl⟩

theorem Search.vetted_errand (hrows : 1 ≤ setup.query.maxRows) (hdry : asked.dryRun = false)
    (h : asked.query.prepare setup.query = .ok q) :
    asked.Vetted setup.query (.errand (.search q)) where
  single := Nat.le_refl 1
  vetted q' hm := by
    obtain rfl := List.mem_singleton.mp hm
    exact ⟨hdry, h, Query.Description.vetted_of_prepare hrows h⟩
  refused _ he := by cases h.symm.trans he
  dry hd := by cases hdry.symm.trans hd

theorem Call.vetted_start_search (hrows : 1 ≤ setup.query.maxRows) (asked : Search) (s : System)
    (fresh : Identifier) (now : Instant) : ∃ progress,
      (Call.search asked).start setup s fresh now = (s, progress) ∧
        asked.Vetted setup.query progress := by
  cases hq : asked.query.prepare setup.query with
  | error error => exact ⟨_, Call.start_search_error hq s fresh now, Search.vetted_failed hq⟩
  | ok q =>
    refine ⟨_, Call.start_search_ok hq s fresh now, ?_⟩
    cases hd : asked.dryRun with
    | true => exact Search.vetted_done hq
    | false => exact Search.vetted_errand hrows hd hq

theorem noted_search (p : Retry.Policy) {stage : Rehearsal.Stage} {line : String}
    (hline : Call.ofLine (Rehearsal.withIdentifiers line stage.count) = .ok (.search asked)) :
    ∃ progress, (Call.search asked).start setup stage.system
        (Rehearsal.identifierOf (stage.count + 1)) (.ofMillis stage.now) =
          (stage.system, progress) ∧
      (stage.answerLine ⟨setup, p⟩ line).1.noted =
        progress.searches.map (ranAt stage.now) ++ stage.noted := by
  cases hq : asked.query.prepare setup.query with
  | error error =>
    refine ⟨_, Call.start_search_error hq _ _ _, ?_⟩
    simp [Rehearsal.Stage.answerLine, startLine, hline, Call.start_search_error hq,
      Progress.failed, Progress.searches]
  | ok q =>
    refine ⟨_, Call.start_search_ok hq _ _ _, ?_⟩
    cases hd : asked.dryRun <;>
      simp [Rehearsal.Stage.answerLine, startLine, hline, Call.start_search_ok hq, hd,
        Progress.done, Progress.searches, Rehearsal.Stage.run, Rehearsal.Stage.search,
        Rehearsal.Stage.note, ranAt]

/-- A search turns to the store once at most, with the query that was prepared for it, and not at all
when it is only to be prepared or cannot be. What the store then gets is vetted, and this is all it gets,
whatever it answers. The database in its turn gets a statement with its values, once and as they are,
when the statement passes the check, and else nothing; this holds of every query, however it was made. -/
theorem searches_vetted (hrows : 1 ≤ setup.query.maxRows) (asked : Search) :
    (∀ s fresh now, ∃ progress, (Call.search asked).start setup s fresh now = (s, progress) ∧
      progress.searches.length ≤ 1 ∧
      (∀ q ∈ progress.searches, asked.dryRun = false ∧
        asked.query.prepare setup.query = .ok q ∧ Query.Vetted setup.query q) ∧
      (∀ error, asked.query.prepare setup.query = .error error → progress = .failed error) ∧
      (asked.dryRun = true → ∃ answer, progress = .answered answer)) ∧
    (∀ (p : Retry.Policy) (stage : Rehearsal.Stage) (line : String),
      Call.ofLine (Rehearsal.withIdentifiers line stage.count) = .ok (.search asked) →
        ∃ progress, (Call.search asked).start setup stage.system
            (Rehearsal.identifierOf (stage.count + 1)) (.ofMillis stage.now) =
              (stage.system, progress) ∧
          (stage.answerLine ⟨setup, p⟩ line).1.noted =
            progress.searches.map (ranAt stage.now) ++ stage.noted) ∧
    (∀ db, (∀ error, asked.query.prepare setup.query = .error error →
        Store.search setup.query db asked.query = .refused error) ∧
      ∀ q, asked.query.prepare setup.query = .ok q → Query.Vetted setup.query q ∧
        (Store.search setup.query db asked.query).exchanges =
          [⟨⟨q.statement, q.binds⟩, db ⟨q.statement, q.binds⟩⟩]) ∧
    ∀ (db : Store.Database) (q : Query.Compiled),
      (∀ reason, q.check = .error reason →
        Store.execute db q = .refused (.refused reason)) ∧
      (q.check = .ok () → (Store.execute db q).exchanges =
        [⟨⟨q.statement, q.binds⟩, db ⟨q.statement, q.binds⟩⟩]) := by
  refine ⟨?_, ?_, ?_, ?_⟩
  · intro s fresh now
    obtain ⟨progress, hstart, h⟩ := Call.vetted_start_search hrows asked s fresh now
    exact ⟨progress, hstart, h.single, h.vetted, h.refused, h.dry⟩
  · exact fun p stage line hline ↦ noted_search p hline
  · exact fun db ↦ ⟨fun error he ↦ Store.search_refused he db, fun q hq ↦
      ⟨Query.Description.vetted_of_prepare hrows hq, Store.exchanges_search hq db⟩⟩
  · exact fun db q ↦ ⟨fun _ hr ↦ Store.execute_refused hr db, fun hc ↦ Store.exchanges_execute hc db⟩

/-- A search that is run, and the same query with another statement in the place of its own. -/
theorem searches_vetted_forged : ∃ q,
    (Call.search ⟨Query.Description.nearMiss, false⟩).start ⟨.standard, .standard⟩ .empty .nil
        (.ofMillis 0) = (.empty, .errand (.search q)) ∧
      q.limit = 10 ∧ Query.Vetted .standard q ∧
      ∀ db, Store.execute db { q with statement := "SELECT 1; DROP TABLE geo_fence" } =
        .refused (.refused (.pattern "statement separator ';'")) := by
  obtain ⟨-, -, hstore, hdatabase⟩ := @searches_vetted ⟨.standard, .standard⟩ (by decide)
    ⟨Query.Description.nearMiss, false⟩
  have hseen : (Query.Description.nearMiss.compile .standard).toOption.map
      (fun q ↦ (q.limit, q.table)) = some (10, "geo_fence") := by decide +kernel
  cases hcompile : Query.Description.nearMiss.compile .standard with
  | error error => simp [hcompile, Except.toOption] at hseen
  | ok q =>
    simp only [hcompile, Except.toOption, Option.map_some, Option.some.injEq,
      Prod.mk.injEq] at hseen
    obtain ⟨hlimit, htable⟩ := hseen
    have hq := Query.Description.prepare_of_compile hcompile
    have hforged : Query.Scan.check q.table "SELECT 1; DROP TABLE geo_fence" =
        .error (.pattern "statement separator ';'") := by
      rw [htable]
      decide
    have hstart := @Call.start_search_ok ⟨.standard, .standard⟩
      ⟨Query.Description.nearMiss, false⟩ q hq .empty .nil (.ofMillis 0)
    exact ⟨q, hstart, hlimit, ((hstore fun _ ↦ .hungUp).2 q hq).1,
      fun db ↦ (hdatabase db _).1 _ hforged⟩

end FleetControl.Tool
