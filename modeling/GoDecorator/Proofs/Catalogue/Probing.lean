import GoDecorator.Proofs.Catalogue.Running

/-!
# Probing

To name the visitors that accept an input, each of them is tried on it. A visitor is tried in the
way in which it would be run, so the two requests agree on what comes of it (`probing_agrees`):
where no visitor meets a fault of a template, those are named **with which a request to generate
succeeds**, and otherwise the search ends **with the error of the first visitor that does**.

A visitor that crashes or rejects the input is left out and has no effect on the others. This rests
on `outcome_probe` alone, which says what a single trial comes to, and on one induction over the
visitors for each of the two cases.
-/

namespace GoDecorator

namespace Visitor

/-- The run of a visitor over a file ends with a fault of a template. -/
def MeetsFault (v : Visitor) (file : SourceFile) (e : Error) : Prop :=
  (v.runFresh file).outcome = .error (.error e) ∧ e.tier = .template

end Visitor

namespace Catalogue

variable {c : Catalogue} {package input : String} {file : SourceFile} {v : Visitor}
  {vs : List Visitor}

/-! ### Trying one visitor -/

/-- A visitor that meets a fault ends the search. -/
theorem outcome_probe_of_fault {e : Error} (h : v.MeetsFault file e) :
    (probe file v).outcome = .error (.error e) := by
  simp only [probe, h.1, if_pos h.2]

/-- **Without a fault, a trial says whether the run succeeds.** -/
theorem outcome_probe (h : ∀ e, ¬ v.MeetsFault file e) :
    (probe file v).outcome = .ok (v.runFresh file).outcome.isOk := by
  unfold probe
  dsimp only
  cases hrun : (v.runFresh file).outcome with
  | ok ds => rfl
  | error f =>
    cases f with
    | error e =>
      have htier : ¬ e.tier = .template := fun htier ↦ h e ⟨hrun, htier⟩
      dsimp only
      rw [if_neg htier]
      rfl
    | crash c => rfl

/-! ### Trying all of them -/

theorem outcome_accepting_cons :
    (accepting file (v :: vs)).outcome =
      (probe file v).outcome >>= fun accepts ↦ (accepting file vs).outcome >>= fun rest ↦
        .ok (if accepts then v.summary :: rest else rest) := by
  rw [accepting, Traced.outcome_bind]
  cases (probe file v).outcome with
  | error f => rfl
  | ok accepts =>
    change ((accepting file vs) >>= _).outcome = _
    rw [Traced.outcome_bind]
    cases (accepting file vs).outcome <;> rfl

/-- **If no visitor meets a fault, those are named whose runs succeed.** -/
theorem outcome_accepting (h : ∀ v ∈ vs, ∀ e, ¬ v.MeetsFault file e) :
    (accepting file vs).outcome =
      .ok ((vs.filter fun v ↦ (v.runFresh file).outcome.isOk).map Visitor.summary) := by
  induction vs with
  | nil => rfl
  | cons v vs ih =>
    obtain ⟨hv, hvs⟩ := List.forall_mem_cons.1 h
    rw [outcome_accepting_cons, outcome_probe hv, ih hvs]
    cases haccepts : (v.runFresh file).outcome.isOk <;> simp [haccepts, bind, Except.bind]

/-- **The first visitor that meets a fault ends the search with it.** -/
theorem outcome_accepting_of_fault {front rear : List Visitor} {e : Error}
    (hfront : ∀ u ∈ front, ∀ e, ¬ u.MeetsFault file e) (hv : v.MeetsFault file e) :
    (accepting file (front ++ v :: rear)).outcome = .error (.error e) := by
  induction front with
  | nil =>
    rw [List.nil_append, outcome_accepting_cons, outcome_probe_of_fault hv]
    rfl
  | cons u front ih =>
    obtain ⟨hu, hfront⟩ := List.forall_mem_cons.1 hfront
    rw [List.cons_append, outcome_accepting_cons, outcome_probe hu, ih hfront]
    rfl

theorem outcome_available (c : Catalogue) (package input : String) :
    (c.available package input).outcome =
      (readInput input).outcome >>= fun file ↦ (accepting file (c.visitors package)).outcome := by
  rw [available, Traced.outcome_bind]

/-! ### Agreement -/

/-- A visitor of a name of its own is found by it. -/
theorem find?_name (hnames : ((c.visitors package).map Visitor.name).Nodup)
    (hv : v ∈ c.visitors package) : c.find? package v.name = some v := by
  unfold find?
  revert hnames hv
  generalize c.visitors package = vs
  intro hnames hv
  induction vs with
  | nil => cases hv
  | cons u vs ih =>
    obtain ⟨hu, hvs⟩ := List.nodup_cons.1 hnames
    rcases List.mem_cons.1 hv with rfl | hv
    · exact List.find?_cons_of_pos (by simp)
    · have hne : u.name ≠ v.name := fun heq ↦ hu (heq ▸ List.mem_map_of_mem hv)
      rw [List.find?_cons_of_neg (by simpa using hne)]
      exact ih hvs hv

/-- Where names are distinct, a request to generate by name is a run of the visitor of that name. -/
theorem outcome_implement_name (hnames : ((c.visitors package).map Visitor.name).Nodup)
    (hv : v ∈ c.visitors package) :
    (c.implement package input v.name).outcome =
      (readInput input).outcome >>= fun file ↦ (v.runFresh file).outcome := by
  rw [outcome_implement, find?_name hnames hv]

/-- **Probing and generating agree.** An input that cannot be read fails in the same way in both. If
it can be read, the first visitor that meets a fault of a template decides what probing comes to;
and if there is none, probing names the visitors with which generating succeeds, in order. -/
theorem probing_agrees (c : Catalogue) (package input : String)
    (hnames : ((c.visitors package).map Visitor.name).Nodup) :
    (∀ f, (readInput input).outcome = .error f →
      (c.available package input).outcome = .error f ∧
        ∀ v ∈ c.visitors package, (c.implement package input v.name).outcome = .error f) ∧
    ∀ file, (readInput input).outcome = .ok file →
      (∀ front v rear e, c.visitors package = front ++ v :: rear →
        (∀ u ∈ front, ∀ e, ¬ u.MeetsFault file e) → v.MeetsFault file e →
          (c.available package input).outcome = .error (.error e) ∧
            (c.implement package input v.name).outcome = .error (.error e)) ∧
      ((∀ v ∈ c.visitors package, ∀ e, ¬ v.MeetsFault file e) →
        (c.available package input).outcome =
          .ok (((c.visitors package).filter fun v ↦
            (c.implement package input v.name).outcome.isOk).map Visitor.summary)) := by
  refine ⟨fun f hread ↦ ⟨?_, fun v hv ↦ ?_⟩, fun file hread ↦
    ⟨fun front v rear e hvisitors hfront hv ↦ ⟨?_, ?_⟩, fun hnone ↦ ?_⟩⟩
  · rw [outcome_available, hread]
    rfl
  · rw [outcome_implement_name hnames hv, hread]
    rfl
  · rw [outcome_available, hread, hvisitors]
    exact outcome_accepting_of_fault hfront hv
  · rw [outcome_implement_name hnames (by simp [hvisitors]), hread]
    exact hv.1
  · have hsame : ∀ v ∈ c.visitors package,
        ((c.implement package input v.name).outcome.isOk = true) =
          ((v.runFresh file).outcome.isOk = true) := by
      intro v hv
      rw [outcome_implement_name hnames hv, hread]
      rfl
    rw [outcome_available, hread, List.filter_congr fun v hv ↦ by simpa using hsame v hv]
    exact outcome_accepting hnone

/-- A visitor that crashes at the first node. -/
def crashing : Visitor where
  name := "crashing"
  description := "crashes"
  State := Unit
  start := ()
  visit state _ := (state, ⟨[], .error (.crash .silent)⟩)
  rejection? _ := none

/-- A visitor that stops at the first node. -/
def content : Visitor where
  name := "content"
  description := "is content with everything"
  State := Unit
  start := ()
  visit state _ := (state, ⟨[], .ok (.stop [])⟩)
  rejection? _ := none

set_option maxRecDepth 8000 in
/-- One visitor crashes, and the other one is named all the same. -/
theorem probing_agrees_crashing :
    ((visitors [fun _ ↦ crashing, fun _ ↦ content] "abc").map Visitor.name).Nodup ∧
      (readInput "type A int").outcome =
        .ok ⟨"whatever", [.type ⟨"A", .shape (.primitive .int)⟩]⟩ ∧
      (available [fun _ ↦ crashing, fun _ ↦ content] "abc" "type A int").outcome =
        .ok [⟨"content", "is content with everything"⟩] := by
  have hnames : ((visitors [fun _ ↦ crashing, fun _ ↦ content] "abc").map Visitor.name).Nodup := by
    decide
  have hread : (readInput "type A int").outcome =
      .ok ⟨"whatever", [.type ⟨"A", .shape (.primitive .int)⟩]⟩ := by decide +kernel
  refine ⟨hnames, hread, ?_⟩
  have hagree := ((probing_agrees _ "abc" "type A int" hnames).2 _ hread).2
  rw [hagree (List.forall_mem_cons.2 ⟨?_, List.forall_mem_singleton.2 ?_⟩)]
  · decide +kernel
  · rintro e ⟨hrun, -⟩
    cases hrun
  · rintro e ⟨hrun, -⟩
    cases hrun

end Catalogue

end GoDecorator
