import QueryDesk.Proofs.Faults
import QueryDesk.Proofs.Routing
import QueryDesk.Proofs.Statement

/-!
Generating the statement of a state. Whatever is written down about it for people who look into a run, only
the plan decides how it ends: the statement that is built for the plan is stored, or none can be built and the
statement that was there before stays.
-/

namespace QueryDesk

open Attempt Desk

/-! ### Writing debug files -/

namespace Json

instance : Mild (read s) := by
  have hb : ∀ cs fail, (∀ st, Mild (fail st)) → Mild (read.body cs fail) := by
    intro cs fail hf
    unfold read.body
    split
    · exact hf _
    · split
      · exact ⟨rfl⟩
      · exact hf _
  unfold read
  dsimp only
  split
  · split
    · exact ⟨rfl⟩
    · exact hb _ _ fun st => ⟨rfl⟩
  · exact hb _ _ fun st => ⟨rfl⟩

end Json

namespace Value

instance : Mild (hashable v) := by
  unfold hashable
  split <;> exact ⟨rfl⟩

instance : Mild (isIn x container) := by
  unfold isIn
  split
  case h_3 | h_4 => infer_instance
  case h_5 => split <;> exact ⟨rfl⟩
  all_goals exact ⟨rfl⟩

instance : Mild (setField v key x) := by
  unfold setField
  split <;> exact ⟨rfl⟩

end Value

namespace DebugFile

instance : Mild (stamped now data) := by
  unfold stamped
  split <;> exact ⟨rfl⟩

instance : Mild (withEntry kn key e) := by
  refine .next fun fd => ?_
  split
  all_goals
    refine .next fun kn => .next fun es => ?_
    split
    · infer_instance
    · exact ⟨rfl⟩

instance : Completes (find? name) := by unfold find?; infer_instance

instance : Completes (put dir name data) := by
  have : Completes (isWritable name) := by unfold isWritable; infer_instance
  refine .bind this fun writable => ?_
  split
  · split <;> exact .bind .modify inferInstance
  · infer_instance

lemma whenWanted_completes {step : String → Desk Value} (h : ∀ dir, Tame (step dir)) :
    Completes (whenWanted fun dir => quietly (step dir)) := by
  refine .bind .read fun s => ?_
  split
  · unfold quietly
    infer_instance
  · infer_instance

instance : Completes (save name data timed) := by
  refine whenWanted_completes fun dir => .bind Completes.modify.tame fun _ => ?_
  split <;> infer_instance

instance : Tame (collection name key) := by
  refine .next fun fd => ?_
  split
  · infer_instance
  · exact .throw rfl
  · infer_instance

instance : Completes (append name data key) := by
  refine whenWanted_completes fun dir => .bind Completes.modify.tame fun _ => .next fun name => ?_
  dsimp only
  split
  · exact .bind (.throw rfl) inferInstance
  · infer_instance

end DebugFile

namespace Sql

lemma not_built_of_no_selections {plan st ctx statement : Value}
    (h : docsOf plan "selections" = []) : ¬ Gives (build plan st ctx) s t statement t' := by
  intro hg
  obtain ⟨p, hp, -⟩ := build_ok hg
  obtain ⟨first, rest, hd, -⟩ := hp.base
  rw [docsOf_eq hp.selections, hd] at h
  cases h

end Sql

namespace Workflow

open Value

lemma append_ne_of_head (h : a.toList.head?.isSome && a.toList.head? != c.toList.head?)
    (b : String) : a ++ b ≠ c := by
  rintro rfl
  cases hl : a.toList <;> simp [hl] at h

/-- What generating does up to the statement. -/
def building (state : Value) : Desk Value := do
  Desk.status "generate_query" "running" "Generating SQL query"
  let plan ← state.field "planner_output"
  let document ← planDocument plan
  let context ← databaseContext
  Sql.build document state context

/-- The ways in which generating the statement of a state ends. -/
inductive Generation (s : Surroundings) (t : Traffic) (state : Value) : Value → Prop
  | built {statement : Value} {t' : Traffic} (hbuilt : Gives (building state) s t statement t') :
      Generation s t state (state.update [saying "Generated SQL query deterministically from execution plan",
        ("query", statement), ("last_step", .text "generate_query")])
  /-- No statement can be built for the plan; the one that was there before stays. -/
  | unbuilt {said : String} (hnone : ∀ statement t', ¬ Gives (building state) s t statement t')
      (hsaid : said ≠ "Generated SQL query deterministically from execution plan") :
      Generation s t state (state.update [saying said, ("last_step", .text "generate_query")])

section

variable {statement : Value}

lemma truthy_of_built (hd : planDocument plan = .ok doc)
    (hb : Gives (Sql.build doc st ctx) s t statement t') : plan.truthy = true := by
  by_contra hf
  rw [Bool.not_eq_true] at hf
  have hn : Sql.docsOf doc "selections" = [] := by
    cases plan with
    | record fs =>
      cases hd
      exact Sql.docsOf_of_falsy hf
    | entity => cases hf
    | _ =>
      simp only [planDocument, hf] at hd
      cases hd
      rfl
  exact Sql.not_built_of_no_selections hn hb

lemma occasionOf_int (corrections refinements : Nat) :
    ∃ occasion, occasionOf (.int corrections) (.int refinements) = .ok occasion := by
  unfold occasionOf
  simp only [Value.isPositive, Attempt.ok_bind]
  split
  · exact ⟨_, rfl⟩
  · split <;> exact ⟨_, rfl⟩

lemma databaseContext_dialect :
    Ends databaseContext fun ctx => ∃ dialect, ctx.getD "dialect" "unknown" = .ok dialect :=
  .bind fun _ => .bind fun _ => .pure ⟨_, rfl⟩

lemma generateQuery_of_built (hc : Counted st e r)
    (hb : Gives (building st) s t statement t') : ∃ t₁, Gives (generateQuery st) s t
      (st.update [saying "Generated SQL query deterministically from execution plan", ("query", statement),
        ("last_step", .text "generate_query")]) t₁ := by
  simp only [building, gives_bind, gives_lift, and_assoc, exists_and_left, exists_eq_left'] at hb
  obtain ⟨_, t₁, hs, plan, hp, doc, hd, ctx, t₂, hct, hbu⟩ := hb
  have ht := truthy_of_built hd hbu
  obtain ⟨dialect, hdi⟩ := databaseContext_dialect s t₁ ctx t₂ hct
  obtain ⟨occasion, ho⟩ := occasionOf_int e r
  obtain ⟨_, t₃, hsa⟩ := (inferInstance : Completes (DebugFile.save "generated_sql.json"
    (.record [("sql", statement), ("dialect", dialect)]) false)).ends s t'
  obtain ⟨_, t₄, ha⟩ := (inferInstance : Completes (DebugFile.append "generated_sql_queries.json"
    (.record [("step", .text occasion), ("sql", statement), ("error_iteration", .int e),
      ("refinement_iteration", .int r), ("status", .text "generated")]) "queries")).ends s t₃
  refine ⟨t₄, .bind hs (gives_recover.2 (.inl (.bind (.lift hp) ?_)))⟩
  rw [if_neg (by simp [ht])]
  exact .bind (.lift hd) <| .bind hct <| .bind hbu <| .bind (.lift hdi) <| .bind hsa <|
    .bind (.lift hc.getD_corrections) <| .bind (.lift hc.getD_refinements) <|
    .bind (.lift ho) <| .bind ha .pure

lemma generateQuery_ends (hc : Counted st e r)
    (hg : Gives (generateQuery st) s t after t') : Generation s t st after := by
  -- Failing after the statement was built is out of the question, so what can be built decides.
  by_cases hb : ∃ statement t₁, Gives (building st) s t statement t₁
  · obtain ⟨statement, t₁, hb⟩ := hb
    obtain ⟨t₂, hs⟩ := generateQuery_of_built hc hb
    obtain ⟨rfl, -⟩ := hg.unique hs
    exact .built hb
  · have hn : ∀ statement t₁, ¬ Gives (building st) s t statement t₁ :=
      fun statement t₁ h => hb ⟨statement, t₁, h⟩
    simp only [generateQuery, gives_bind] at hg
    obtain ⟨_, t₁, hst, hg⟩ := hg
    rw [gives_recover] at hg
    rcases hg with hg | ⟨f, t₂, -, -, hg⟩
    · simp only [gives_bind, gives_lift, and_assoc, exists_and_left, exists_eq_left'] at hg
      obtain ⟨plan, hp, hg⟩ := hg
      split at hg
      · rw [gives_pure] at hg
        obtain ⟨rfl, -⟩ := hg
        exact .unbuilt hn (by decide)
      · -- The statement that was stored would have been built.
        simp only [gives_bind, gives_lift, and_assoc, exists_and_left, exists_eq_left'] at hg
        obtain ⟨doc, hd, ctx, t₂, hct, statement, t₃, hbu, -⟩ := hg
        exact absurd (.bind hst <| .bind (.lift hp) <| .bind (.lift hd) <| .bind hct hbu)
          (hn statement t₃)
    · rw [gives_pure] at hg
      obtain ⟨rfl, -⟩ := hg
      exact .unbuilt hn (append_ne_of_head (by decide) _)

end

end Workflow

end QueryDesk
