import Mathlib.Data.List.Induction
import GoDecorator.Proofs.Template.Filling

/-!
# Bindings and placeholders match exactly

Bindings are made one after the other. What they hold can be said of that history without the
bindings themselves: the names are those that were bound, in the order of their first binding
(`find?_keys_ofList`), and the value of a name is the one that it got last (`get?_ofList`). Both are
by induction from the end of the history, since a binding is added at its end.

## What comes of a template

`outcome_render_ofList` says what comes of filling in a template from such bindings. **There is a
text exactly if the template can be taken apart and its placeholders are the names that were
bound**; the text is then that of the pieces in order, and what is put in is not looked through
again.

Where several things are wrong, the form of the template counts first, then the leftmost placeholder
without a value, then the name without a placeholder that was bound first. `instantiate_eq_ok_iff`
takes the four ways apart once, for bindings of any kind, and the statement about histories only
replaces the names in the bindings by the names that were bound.
-/

namespace GoDecorator.Template

namespace Bindings

/-! ### The history of bindings -/

@[simp] theorem ofList_nil : ofList [] = [] := rfl

@[simp] theorem ofList_concat (sets : List (String × Value)) (key : String) (value : Value) :
    ofList (sets ++ [(key, value)]) = set key value (ofList sets) := by
  rw [ofList, List.foldl_append]
  rfl

/-- The text of the value that a name got last; nothing if it was never bound. -/
def latestText (sets : List (String × Value)) (key : String) : String :=
  ((sets.reverse.lookup key).map Value.render).getD ""

/-- **The value of a name is the one that it got last.** -/
theorem get?_ofList (sets : List (String × Value)) (key : String) :
    get? (ofList sets) key = sets.reverse.lookup key := by
  induction sets using List.reverseRecOn with
  | nil => rfl
  | append_singleton sets pair ih =>
    obtain ⟨k, value⟩ := pair
    rw [ofList_concat, List.reverse_concat, List.lookup_cons]
    by_cases h : key = k
    · rw [h, get?_set_self, beq_self_eq_true]
    · rw [get?_set_of_ne _ _ h, ih, beq_false_of_ne h]

/-- The text that a name is bound to is the one that it got last. -/
theorem text_ofList (sets : List (String × Value)) : text (ofList sets) = latestText sets := by
  funext key
  rw [text, get?_ofList, latestText]

/-- A name that is bound already keeps its place, and a new one comes last. -/
theorem keys_set (key : String) (value : Value) (bindings : Bindings) :
    (set key value bindings).map Prod.fst =
      if key ∈ bindings.map Prod.fst then bindings.map Prod.fst
      else bindings.map Prod.fst ++ [key] := by
  fun_induction set key value bindings with
  | case1 => rfl
  | case2 v rest => simp
  | case3 k v rest h ih =>
    have hne : ¬ key = k := fun hk ↦ h hk.symm
    rw [List.map_cons, ih, List.map_cons]
    by_cases hmem : key ∈ rest.map Prod.fst
    · rw [if_pos hmem, if_pos (List.mem_cons_of_mem _ hmem)]
    · rw [if_neg hmem, if_neg (by simp only [List.mem_cons, hne, hmem, or_self, not_false_eq_true]),
        List.cons_append]

/-- **The names come in the order in which they were first bound.** -/
theorem find?_keys_ofList (sets : List (String × Value)) (p : String → Bool) :
    ((ofList sets).map Prod.fst).find? p = (sets.map Prod.fst).find? p := by
  induction sets using List.reverseRecOn with
  | nil => rfl
  | append_singleton sets pair ih =>
    obtain ⟨key, value⟩ := pair
    rw [ofList_concat, keys_set, List.map_append, List.find?_append, ← ih]
    split
    next hmem =>
      -- a name that was bound before is no new candidate
      cases hfind : ((ofList sets).map Prod.fst).find? p with
      | some found => rfl
      | none =>
        have hkey : ¬ p key = true := List.find?_eq_none.1 hfind key hmem
        simp [hkey]
    next => exact List.find?_append

@[simp] theorem mem_keys_ofList {sets : List (String × Value)} {key : String} :
    key ∈ (ofList sets).map Prod.fst ↔ key ∈ sets.map Prod.fst := by
  have hfind : ∀ keys : List String, key ∈ keys ↔ (keys.find? (· == key)).isSome = true :=
    fun keys ↦ by simp
  rw [hfind, find?_keys_ofList, ← hfind]

end Bindings

/-! ### What comes of a template -/

/-- **The leftmost placeholder without a value is the one that is reported.** -/
theorem fill_of_find? {bindings : Bindings} {ps : List Piece} {name : String}
    (h : (placeholders ps).find? (· ∉ bindings.map Prod.fst) = some name) :
    fill bindings ps = .error (.missingKey name) := by
  induction ps with
  | nil => cases h
  | cons p ps ih =>
    cases p with
    | literal t =>
      rw [fill, ih h]
      rfl
    | placeholder n =>
      have hcons : placeholders (.placeholder n :: ps) = n :: placeholders ps := rfl
      rw [hcons, List.find?_cons] at h
      rw [fill]
      cases hget : bindings.get? n with
      | none =>
        have hunbound : n ∉ bindings.map Prod.fst := by
          rw [← isSome_get?_iff, hget]
          simp
        rw [decide_eq_true hunbound] at h
        rw [Option.some.inj h]
      | some value =>
        have hbound : n ∈ bindings.map Prod.fst := isSome_get?_iff.1 (by rw [hget]; rfl)
        rw [decide_eq_false fun hn ↦ hn hbound] at h
        show (fill bindings ps >>= _) = _
        rw [ih h]
        rfl

section Instantiate

variable {bindings : Bindings} {template : String} {ps : List Piece}

/-- A template that cannot be taken apart is not filled in. -/
theorem instantiate_of_pieces_error {e : Error} (h : pieces template = .error e) :
    instantiate bindings template = .error e := by
  rw [instantiate, h]
  rfl

/-- The first placeholder without a value is missed. -/
theorem instantiate_of_missing {name : String} (hps : pieces template = .ok ps)
    (h : (placeholders ps).find? (· ∉ bindings.map Prod.fst) = some name) :
    instantiate bindings template = .error (.missingKey name) := by
  rw [instantiate, hps]
  show (fill bindings ps >>= _) = _
  rw [fill_of_find? h]
  rfl

/-- A template is rendered to the text that comes of filling it in. -/
theorem outcome_render (bindings : Bindings) (template : String) :
    (render bindings template).outcome =
      match instantiate bindings template with
      | .ok text => .ok text
      | .error e => .error (.error e) := by
  rw [render]
  cases instantiate bindings template <;> rfl

/-- There is a text exactly if nothing is wrong. -/
theorem instantiate_eq_ok_iff {out : String} :
    instantiate bindings template = .ok out ↔
      ∃ ps, pieces template = .ok ps ∧ (∀ name ∈ placeholders ps, name ∈ bindings.map Prod.fst) ∧
        (∀ key ∈ bindings.map Prod.fst, key ∈ placeholders ps) ∧
        out = fillPieces bindings.text ps := by
  cases hps : pieces template with
  | error e => simp [instantiate_of_pieces_error hps]
  | ok ps =>
    simp only [Except.ok.injEq, exists_eq_left']
    cases hmissing : (placeholders ps).find? (· ∉ bindings.map Prod.fst) with
    | some name =>
      have hmem := List.mem_of_find?_eq_some hmissing
      have hname : name ∉ bindings.map Prod.fst := by simpa using List.find?_some hmissing
      rw [instantiate_of_missing hps hmissing]
      exact ⟨nofun, fun h ↦ absurd (h.1 name hmem) hname⟩
    | none =>
      have hbound : ∀ name ∈ placeholders ps, name ∈ bindings.map Prod.fst := fun name hn ↦ by
        simpa using List.find?_eq_none.1 hmissing name hn
      rw [instantiate_of_bound hps hbound]
      cases hunused : unused? bindings ps with
      | some key =>
        have hmem := List.mem_of_find?_eq_some hunused
        have hkey : key ∉ placeholders ps := by simpa using List.find?_some hunused
        exact ⟨nofun, fun h ↦ absurd (h.2.1 key hmem) hkey⟩
      | none =>
        have hused : ∀ key ∈ bindings.map Prod.fst, key ∈ placeholders ps := fun key hk ↦ by
          simpa using List.find?_eq_none.1 hunused key hk
        exact ⟨fun h ↦ ⟨hbound, hused, (Except.ok.inj h).symm⟩, fun h ↦ by rw [h.2.2]⟩

end Instantiate

/-- **A template and bindings match exactly or there is one error.** The bindings come from any
sequence of bindings, a name bound again included.

* There is a text exactly if the template can be taken apart, each of its placeholders was bound and
  each name that was bound has a placeholder. The text is that of the pieces in order, with the
  value that each name got last, as it is.
* A template that cannot be taken apart gives that error.
* Otherwise the leftmost placeholder that was not bound is reported.
* Otherwise the name without a placeholder that was bound first is reported. -/
theorem outcome_render_ofList (sets : List (String × Value)) (template : String) :
    (∀ out, (render (Bindings.ofList sets) template).outcome = .ok out ↔
      ∃ ps, pieces template = .ok ps ∧ (∀ name ∈ placeholders ps, name ∈ sets.map Prod.fst) ∧
        (∀ key ∈ sets.map Prod.fst, key ∈ placeholders ps) ∧
        out = fillPieces (Bindings.latestText sets) ps) ∧
    (∀ e, pieces template = .error e →
      (render (Bindings.ofList sets) template).outcome = .error (.error e)) ∧
    ∀ ps, pieces template = .ok ps →
      (∀ name, (placeholders ps).find? (· ∉ sets.map Prod.fst) = some name →
        (render (Bindings.ofList sets) template).outcome = .error (.error (.missingKey name))) ∧
      ((∀ name ∈ placeholders ps, name ∈ sets.map Prod.fst) →
        ∀ key, (sets.map Prod.fst).find? (· ∉ placeholders ps) = some key →
          (render (Bindings.ofList sets) template).outcome = .error (.error (.unusedKey key))) := by
  simp only [outcome_render]
  refine ⟨fun out ↦ ?_, fun e he ↦ ?_, fun ps hps ↦ ⟨fun name hname ↦ ?_, fun hbound key hkey ↦ ?_⟩⟩
  · have hiff := @instantiate_eq_ok_iff (Bindings.ofList sets) template out
    simp only [Bindings.mem_keys_ofList, Bindings.text_ofList] at hiff
    rw [← hiff]
    cases instantiate (Bindings.ofList sets) template <;> simp
  · rw [instantiate_of_pieces_error he]
  · rw [instantiate_of_missing hps (by simpa only [Bindings.mem_keys_ofList] using hname)]
  · have hunused : unused? (Bindings.ofList sets) ps = some key := by
      rw [unused?, Bindings.find?_keys_ofList, hkey]
    rw [instantiate_of_bound hps (fun name hn ↦ Bindings.mem_keys_ofList.2 (hbound name hn)),
      hunused]

/-- A name that is bound twice, with a value that looks like a placeholder: a text, and each of the
three errors where others are there to be found as well. -/
theorem outcome_render_ofList_rebound :
    let sets : List (String × Value) :=
      [("a", .text "1"), ("b", .text "\x7b\x7ba\x7d\x7d"), ("a", .text "2")]
    (render (Bindings.ofList sets) "\x7b\x7bb\x7d\x7d-\x7b\x7ba\x7d\x7d").outcome =
      .ok "\x7b\x7ba\x7d\x7d-2" ∧
    (render (Bindings.ofList sets) "\x7b\x7bx\x7d\x7d\x7b\x7ba").outcome =
      .error (.error (.unterminatedPlaceholder 5)) ∧
    (render (Bindings.ofList sets) "\x7b\x7by\x7d\x7d\x7b\x7bx\x7d\x7d").outcome =
      .error (.error (.missingKey "y")) ∧
    (render (Bindings.ofList sets) "-").outcome = .error (.error (.unusedKey "a")) := by
  intro sets
  refine ⟨?_, ?_, ?_, ?_⟩
  · exact ((outcome_render_ofList sets _).1 _).2
      ⟨[.placeholder "b", .literal "-", .placeholder "a"], by decide +kernel, by decide, by decide,
        by decide +kernel⟩
  · exact (outcome_render_ofList sets _).2.1 _ (by decide +kernel)
  · exact ((outcome_render_ofList sets _).2.2
      [.placeholder "y", .placeholder "x"] (by decide +kernel)).1 "y" (by decide)
  · exact ((outcome_render_ofList sets _).2.2 [.literal "-"] (by decide +kernel)).2 (by decide) "a"
      (by decide)

end GoDecorator.Template
