import GoDecorator.Proofs.Pattern.Filtering

/-!
# What is filtered

Two notions of a collection meet in the patterns that filter. A type is *enumerable* if it is a
slice or a map under any number of pointers, and that is what its elements are defined for. A filter
works on a slice or a map that is behind one pointer at most, because the loop that it writes takes
one pointer away on the way in and adds one on the way out.

**The two agree but for the number of pointers** (`Collection.ofShape_eq`): a type is filtered
exactly if it is enumerable and has at most one layer of pointers, and then both notions have the
same elements. An enumerable type behind two pointers is rejected as one that is not enumerable
(`double_pointer_rejected`).
-/

namespace GoDecorator

namespace Shape

/-- The number of layers of pointers. -/
def pointerDepth : Shape → Nat
  | .pointer s => s.pointerDepth + 1
  | _ => 0

/-- The type can be filtered: it is enumerable, and it is not behind more than one pointer. -/
@[mk_iff]
structure IsFiltered (s : Shape) : Prop where
  /-- It is a slice or a map under its pointers. -/
  enumerable : s.isEnumerable = true
  /-- There is at most one. -/
  pointers : s.pointerDepth ≤ 1

instance (s : Shape) : Decidable s.IsFiltered :=
  decidable_of_iff _ s.isFiltered_iff.symm

/-- **Pointers are transparent** to the question whether a type is enumerable. -/
theorem isEnumerable_eq (s : Shape) : s.isEnumerable = Pattern.isCollection s.stripPointers := by
  fun_induction stripPointers s with
  | case1 s ih => exact ih
  | case2 s hs => cases s <;> first | rfl | exact absurd rfl (hs _)

end Shape

namespace Pattern

variable {package : String} {d : Descriptor} {m : Method}

namespace Collection

/-- **A type is filtered exactly if it is enumerable and behind one pointer at most.** -/
theorem ofShape_eq (s : Shape) (method : String) (place : CollectionPlace) :
    ofShape s method place =
      if s.IsFiltered then .ok ⟨s.stripPointers, s.pointerDepth == 1⟩
      else .error (.notEnumerable method place) := by
  cases s with
  | pointer t =>
    cases t with
    | pointer u => exact (if_neg fun h ↦ absurd h.pointers (by simp [Shape.pointerDepth])).symm
    | _ => rfl
  | _ => rfl

theorem exists_ofShape_iff {s : Shape} {method : String} {place : CollectionPlace} :
    (∃ c, ofShape s method place = .ok c) ↔ s.IsFiltered := by
  rw [ofShape_eq]
  split <;> simp [*]

/-- What is filtered are the elements of the type. -/
theorem element?_of_ofShape {s : Shape} {method : String} {place : CollectionPlace}
    {c : Collection} (h : ofShape s method place = .ok c) : s.element? = some c.element := by
  have hs : s.IsFiltered := exists_ofShape_iff.1 ⟨c, h⟩
  rw [ofShape_eq, if_pos hs] at h
  obtain rfl := Except.ok.inj h
  have hcollection := hs.enumerable
  rw [Shape.isEnumerable_eq] at hcollection
  rw [Shape.element?, element]
  cases hshape : s.stripPointers with
  | slice _ => rfl
  | map _ _ => rfl
  | _ => rw [hshape] at hcollection; cases hcollection

end Collection

/-! ### The methods that are accepted -/

/-- The parameter that is filtered is the first one besides the context. -/
theorem FilterParam.exists_target_iff :
    (∃ c, FilterParam.target m = .ok c) ↔
      ∃ p, m.payloadParams.head? = some p ∧ p.bodyShape.IsFiltered := by
  have hparam : m.params[FilterParam.targetIndex m]? = m.payloadParams.head? := by
    rw [FilterParam.targetIndex, Method.payloadParams]
    split
    · rw [List.head?_drop]
    · rw [List.head?_eq_getElem?]
  rw [FilterParam.target, hparam]
  cases m.payloadParams.head? with
  | none => simp [throw_eq_error]
  | some p => simp [Collection.exists_ofShape_iff]

theorem FilterReturn.exists_target_iff :
    (∃ c, FilterReturn.target m = .ok c) ↔
      ∃ r, m.results.head? = some r ∧ r.shape.IsFiltered := by
  rw [FilterReturn.target]
  cases m.results.head? with
  | none => simp [throw_eq_error]
  | some r => simp [Collection.exists_ofShape_iff]

/-- A filter applies to one method that has something to filter. -/
theorem validate_target_iff {target : Method → Check Collection} :
    (do let _ ← target (← d.singleMethod) : Check Unit) = .ok () ↔
      ∃ m, d.methods = [m] ∧ ∃ c, target m = .ok c := by
  constructor
  · intro h
    obtain ⟨m, hmethods, hcheck⟩ := d.of_singleMethod h
    obtain ⟨c, htarget, -⟩ := exists_of_bind_eq_ok hcheck
    exact ⟨m, hmethods, c, htarget⟩
  · rintro ⟨m, hmethods, c, htarget⟩
    show (d.singleMethod >>= fun m ↦ target m >>= fun _ ↦ pure ()) = _
    rw [d.singleMethod_eq hmethods, ok_bind, htarget]
    rfl

/-- **The filters accept the enumerable types behind at most one pointer.** Such a type is a
collection, with the elements that it has as a type. A method is accepted if the first argument
besides the context, or the first result, is of such a type. -/
theorem filters_accept_iff (s : Shape) (method : String) (place : CollectionPlace)
    (package : String) (d : Descriptor) :
    ((∃ c, Collection.ofShape s method place = .ok c) ↔
      s.isEnumerable = true ∧ s.pointerDepth ≤ 1) ∧
    (∀ c, Collection.ofShape s method place = .ok c → s.element? = some c.element) ∧
    ((filterParam package).validate d = .ok () ↔ ∃ m p, d.methods = [m] ∧
      m.payloadParams.head? = some p ∧ p.bodyShape.isEnumerable = true ∧
        p.bodyShape.pointerDepth ≤ 1) ∧
    ((filterReturn package).validate d = .ok () ↔ ∃ m r, d.methods = [m] ∧
      m.results.head? = some r ∧ r.shape.isEnumerable = true ∧ r.shape.pointerDepth ≤ 1) := by
  simp only [← Shape.isFiltered_iff]
  refine ⟨Collection.exists_ofShape_iff, fun _ ↦ Collection.element?_of_ofShape, ?_, ?_⟩
  · refine validate_target_iff.trans (exists_congr fun m ↦ ?_)
    rw [FilterParam.exists_target_iff, exists_and_left]
  · refine validate_target_iff.trans (exists_congr fun m ↦ ?_)
    rw [FilterReturn.exists_target_iff, exists_and_left]

/-- A map behind a pointer is filtered by its values, and so are the values of a variadic
parameter. -/
theorem filters_accept_iff_map :
    (∃ c, Collection.ofShape (.pointer (.map (.primitive .string) (.primitive .int))) "Save"
      .firstParameter = .ok c ∧ c.element = .primitive .int) ∧
    (filterParam "abc").validate
      ⟨"Sink", .interface, [⟨"Save", [⟨some "ctx", .context, false⟩,
        ⟨some "ids", .primitive .int, true⟩], []⟩]⟩ = .ok () := by
  obtain ⟨hcollection, helement, hparam, -⟩ := filters_accept_iff
    (.pointer (.map (.primitive .string) (.primitive .int))) "Save" .firstParameter "abc"
    ⟨"Sink", .interface, [⟨"Save", [⟨some "ctx", .context, false⟩,
      ⟨some "ids", .primitive .int, true⟩], []⟩]⟩
  constructor
  · obtain ⟨c, hc⟩ := hcollection.2 (by decide)
    exact ⟨c, hc, (Option.some.inj (helement c hc)).symm⟩
  · exact hparam.2 ⟨_, ⟨some "ids", .primitive .int, true⟩, rfl, rfl, by decide⟩

/-- **An enumerable type behind two pointers is rejected** as one that is not enumerable, by both
filters. -/
theorem double_pointer_rejected :
    (Shape.pointer (.pointer (.slice (.primitive .int)))).isEnumerable = true ∧
    Collection.ofShape (.pointer (.pointer (.slice (.primitive .int)))) "Save" .firstParameter =
      .error (.notEnumerable "Save" .firstParameter) ∧
    (filterParam "abc").validate
      ⟨"xxx", .interface, [⟨"Save",
        [⟨some "xs", .pointer (.pointer (.slice (.primitive .int))), false⟩],
        [.unnamed (.primitive .error)]⟩]⟩ = .error (.notEnumerable "Save" .firstParameter) ∧
    (filterReturn "abc").validate
      ⟨"xxx", .interface, [⟨"Load", [],
        [.unnamed (.pointer (.pointer (.slice (.primitive .int))))]⟩]⟩ =
        .error (.notEnumerable "Load" .firstResult) :=
  ⟨rfl, rfl, rfl, rfl⟩

end Pattern

end GoDecorator
