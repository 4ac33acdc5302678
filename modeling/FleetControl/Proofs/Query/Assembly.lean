import FleetControl.Proofs.Query.Stages
import FleetControl.Query.Assembly

namespace FleetControl.Query

section Runs

variable {α β ε : Type}

theorem ok_bind (a : α) (f : α → Except ε β) : (Except.ok a >>= f) = f a := rfl

theorem error_bind (e : ε) (f : α → Except ε β) : (Except.error e >>= f) = .error e := rfl

theorem map_bind' {γ : Type} (x : Except ε α) (f : α → β) (g : β → Except ε γ) :
    (x.map f >>= g) = x >>= fun a ↦ g (f a) := by
  cases x <;> rfl

theorem run_throw (e : CompileError) (values : List Bind) :
    (throw e : Binding α).run values = .error e := rfl

theorem run_lift (x : Except CompileError α) (values : List Bind) :
    (liftM x : Binding α).run values = x.map fun a ↦ (a, values) := by
  cases x <;> rfl

theorem run_bindNext (b : Bind) (values : List Bind) :
    (bindNext b).run values = .ok (Condition.placeholder (values.length + 1), values ++ [b]) := by
  have hlength : (values ++ [b]).length = values.length + 1 := List.length_append
  rw [← hlength]
  rfl

end Runs

variable {settings : Settings} {t : Table} {d : Description}

def written (values : List Bind) (conditions : List (Condition Bind)) : List String × List Bind :=
  (Condition.texts (values.length + 1) conditions, values ++ conditions.flatMap Condition.values)

theorem written_nil (values : List Bind) : written values [] = ([], values) := by
  simp [written, Condition.texts]

theorem written_singleton (values : List Bind) (c : Condition Bind) :
    written values [c] = ([c.text (values.length + 1)], values ++ c.values) := by
  simp [written, Condition.texts]

theorem texts_append (n : Nat) (cs more : List (Condition Bind)) :
    Condition.texts n (cs ++ more) =
      Condition.texts n cs ++ Condition.texts (n + (cs.flatMap Condition.values).length) more := by
  induction cs generalizing n with
  | nil => rfl
  | cons c cs ih =>
    rw [List.cons_append, Condition.texts, Condition.texts, ih, List.cons_append,
      List.flatMap_cons, List.length_append, Nat.add_assoc]

theorem written_append (values : List Bind) (cs more : List (Condition Bind)) :
    written values (cs ++ more) =
      ((written values cs).1 ++ (written (written values cs).2 more).1,
        (written (written values cs).2 more).2) := by
  have hnumber : (values ++ cs.flatMap Condition.values).length + 1 =
      values.length + 1 + (cs.flatMap Condition.values).length := by
    rw [List.length_append]
    omega
  simp only [written, texts_append, hnumber, List.flatMap_append, List.append_assoc]

namespace Description

theorem run_rangeClause (d : Description) (t : Table) (values : List Bind) :
    (d.rangeClause t).run values = (d.rangeCondition t).map (written values) := by
  unfold rangeClause rangeCondition
  cases d.range with
  | none =>
    simp only [StateT.run_pure, Except.map, written_nil]
    rfl
  | some r =>
    by_cases hr : r.finish.before r.start
    · simp only [hr, if_true, StateT.run_bind, run_throw, error_bind, Except.map]
    · simp only [hr, Bool.false_eq_true, if_false, StateT.run_bind, StateT.run_pure, run_bindNext,
        ok_bind, Except.map, written_singleton, List.length_append, List.append_assoc]
      rfl

theorem run_areaClause (settings : Settings) (t : Table) (g : Geometry) (values : List Bind) :
    (areaClause settings t g).run values =
      .ok ((areaCondition settings t g).text (values.length + 1),
        values ++ (areaCondition settings t g).values) := by
  unfold areaClause areaCondition
  cases g with
  | point p =>
    simp only [StateT.run_bind, StateT.run_pure, run_bindNext, ok_bind, List.length_append,
      List.append_assoc]
    rfl
  | circle center radius =>
    simp only [StateT.run_bind, StateT.run_pure, run_bindNext, ok_bind, List.length_append,
      List.append_assoc]
    rfl
  | polygon rings =>
    simp only [StateT.run_bind, run_bindNext, ok_bind]
    split <;> rfl
  | box low high =>
    simp only [StateT.run_bind, run_bindNext, ok_bind]
    split <;> rfl

theorem run_geometryClause (settings : Settings) (d : Description) (t : Table)
    (values : List Bind) :
    (d.geometryClause settings t).run values =
      (d.geometryCondition settings t).map (written values) := by
  unfold geometryClause geometryCondition
  cases d.geometry with
  | none =>
    simp only [StateT.run_pure, Except.map, written_nil]
    rfl
  | some g =>
    cases hc : g.check with
    | error p => simp only [hc, StateT.run_bind, run_throw, error_bind, Except.map]
    | ok _ =>
      by_cases hf : g.fits d.kind
      · simp only [hc, hf, Bool.not_true, Bool.false_eq_true, if_false, if_true,
          StateT.run_bind, StateT.run_pure, run_areaClause, ok_bind, Except.map, written_singleton]
        rfl
      · simp only [hc, hf, Bool.not_false, Bool.false_eq_true, if_false, if_true,
          StateT.run_bind, run_throw, error_bind, Except.map]

theorem run_entityClause (d : Description) (t : Table) (values : List Bind) :
    (d.entityClause t).run values = (d.entityCondition t).map (written values) := by
  unfold entityClause entityCondition
  cases d.entity with
  | none =>
    simp only [StateT.run_pure, Except.map, written_nil]
    rfl
  | some entity =>
    cases ht : t.entity with
    | none => simp only [StateT.run_bind, run_throw, error_bind, Except.map]
    | some column =>
      simp only [pure_bind, StateT.run_bind, StateT.run_pure, run_bindNext, ok_bind, Except.map,
        written_singleton]
      rfl

theorem selection_eq (t : Table) (columns : List Column) (conditions : List (Condition Bind))
    (ordering : List Ordering) (limit : Bind) :
    selection t columns (Condition.texts 1 conditions) ordering ++ " LIMIT "
        ++ Condition.placeholder ((conditions.flatMap Condition.values).length + 1) =
      (Statement.mk columns t.name conditions ordering limit).text := by
  have hempty : (Condition.texts 1 conditions).isEmpty = conditions.isEmpty := by
    cases conditions <;> rfl
  unfold selection Statement.text Statement.whereText Statement.orderText
  simp only [hempty]
  cases conditions.isEmpty <;> cases ordering.isEmpty <;>
    simp [String.append_assoc, Statement.conditionValues]

theorem compile_eq_bind (settings : Settings) (d : Description) :
    d.compile settings =
      d.statement settings >>= fun p ↦ .ok ⟨p.1.table, p.1.text, p.1.values, p.1.columns, p.2⟩ := by
  unfold compile
  cases d.statement settings <;> rfl

/-- A statement is the same, put together in one pass or rendered as a whole. -/
theorem assemble_eq (settings : Settings) (d : Description) :
    (d.assemble settings).run' [] = d.compile settings := by
  rw [StateT.run'_eq, compile_eq_bind]
  unfold assemble statement
  cases Table.find? d.table with
  | none => rfl
  | some t =>
    simp only [pure_bind, ok_bind, bind_assoc, map_bind, StateT.run_bind, run_rangeClause,
      run_geometryClause, run_entityClause, run_lift, map_bind']
    refine bind_congr fun times ↦ bind_congr fun places ↦ bind_congr fun entities ↦
      bind_congr fun columns ↦ bind_congr fun ordering ↦ bind_congr fun limit ↦ ?_
    have htexts : (written [] times).1 ++ (written (written [] times).2 places).1
        ++ (written (written (written [] times).2 places).2 entities).1 =
          (written [] (times ++ places ++ entities)).1 := by
      simp only [written_append]
    have hvalues : (written (written (written [] times).2 places).2 entities).2 =
        (written [] (times ++ places ++ entities)).2 := by
      simp only [written_append]
    rw [htexts, hvalues, run_bindNext]
    exact congrArg (fun text ↦ Except.ok (Compiled.mk t.name text _ columns limit))
      (selection_eq t columns (times ++ places ++ entities) ordering (.int limit))

end Description

end FleetControl.Query
