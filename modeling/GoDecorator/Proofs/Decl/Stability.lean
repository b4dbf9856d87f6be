import GoDecorator.Proofs.Decl.Interfaces
import GoDecorator.Proofs.Decl.Variables

/-!
# Printing is stable

A declaration that was read can be printed, and the printed form can be read again. This need not
give the declaration back, for two reasons. A keyed line in the body of a function is printed with
its colon after the key and a blank after the colon, and is read like that (`Line.tuned`). And the
two empty types have two representations: on the right-hand side of a type declaration they may be
shapes, for example when they stand in parentheses, and are read as definitions of their own.

`Decl.tuned` is the declaration with these two changes made. **The printed form of a declaration is
read as the tuned declaration, and both have the same printed form** (`decl_round_trip`). Printing
and reading once more therefore changes nothing.

What has to be assumed of the declaration is that none of its types is among those that are not read
back (`reads_itself_iff`), and the same of an embedded `any` and of the value of a variable. Nothing
is assumed of bodies, although they may consist of any tokens with matching brackets: how a body is
written is known from its having been read.
-/

namespace GoDecorator

open Token GoDecorator.Parser

/-! ### Changes -/

/-- The right-hand side of a type declaration with an empty type in the form that it is read in. -/
def TypeExpr.tuned : TypeExpr → TypeExpr
  | .shape .any => .interface ⟨[], []⟩
  | .shape .emptyStruct => .struct []
  | definition => definition

/-- **What a declaration is read as after it was printed.** -/
def Decl.tuned : Decl → Decl
  | .type spec => .type { spec with definition := spec.definition.tuned }
  | .func f => .func { f with body := f.body.tuned }
  | .var v => .var v

theorem TypeExpr.text_tuned (definition : TypeExpr) : definition.tuned.text = definition.text := by
  unfold tuned
  split <;> rfl

/-- **A tuned declaration has the same printed form.** -/
theorem Decl.text_tuned (d : Decl) : d.tuned.text = d.text := by
  cases d with
  | type spec => simp [tuned, text, TypeSpec.text, TypeExpr.text_tuned]
  | func f => simp [tuned, text, FuncDecl.text, Block.text_tuned]
  | var v => rfl

/-! ### What is assumed -/

/-- Nothing in the declaration is known to be read as something else. -/
structure Decl.Restorable (d : Decl) : Prop where
  /-- No type in it is a channel for both directions of receive-only channels. -/
  directed : ∀ s ∈ d.shapes, s.Everywhere fun t ↦ t.isTurned = false
  /-- No result list in it is one variadic entry without a name. -/
  readable : ∀ s ∈ d.shapes, s.Everywhere fun t ↦ t.isLoneVariadic = false
  /-- No interface embeds `any`. -/
  embedded : Shape.any ∉ d.embedded
  /-- The value of a variable is read as itself. -/
  value : ∀ e ∈ d.value?, Expr.read e.text = .ok e

theorem Decl.Restorable.isSettled {d : Decl} (h : d.Restorable) {s : Shape} (hs : s ∈ d.shapes)
    (hwf : s.WellFormed) : s.IsSettled := ⟨hwf, h.readable s hs, h.directed s hs⟩

/-! ### Declarations of each kind -/

theorem definitionOf_of_isSettled {s : Shape} (h : s.IsSettled) :
    definitionOf s = (TypeExpr.shape s).tuned := by
  have hreread := Shape.reread_of_isSettled h
  by_cases ha : s = .any
  · subst ha
    rfl
  by_cases he : s = .emptyStruct
  · subst he
    rfl
  rw [definitionOf_eq ha he, hreread]
  unfold TypeExpr.tuned
  split
  · exact absurd (TypeExpr.shape.inj ‹_›) ha
  · exact absurd (TypeExpr.shape.inj ‹_›) he
  · rfl

/-- The printed form of a type declaration is read as the declaration, tuned. -/
theorem writes_text_type {spec : TypeSpec} (hwf : spec.WellFormed)
    (h : (Decl.type spec).Restorable) : Writes (Decl.type spec).text (Decl.type spec).tuned := by
  obtain ⟨name, definition⟩ := spec
  obtain ⟨hn, hwf⟩ := hwf
  cases definition with
  | shape s =>
    have hs := h.isSettled (List.mem_singleton_self s) hwf
    have hwrites := writes_type hn hs.1.proper hs.2.1
    rwa [definitionOf_of_isSettled hs] at hwrites
  | interface body =>
    by_cases hne : body.members = []
    · -- an empty interface is printed like the shape
      obtain ⟨methods, embedded⟩ := body
      obtain ⟨hembedded, hmethods⟩ := List.append_eq_nil_iff.1 hne
      obtain rfl := List.map_eq_nil_iff.1 hembedded
      obtain rfl := List.map_eq_nil_iff.1 hmethods
      exact @writes_type _ hn .any (Shape.everywhere_any.2 trivial) (Shape.everywhere_any.2 rfl)
    · refine writes_text_interface hn hne fun m hm ↦ ?_
      rcases List.mem_append.1 hm with hm | hm
      · obtain ⟨s, hs, rfl⟩ := List.mem_map.1 hm
        refine ⟨hwf.embedded s hs, ?_⟩
        rintro rfl
        exact h.embedded hs
      · obtain ⟨m', hm', rfl⟩ := List.mem_map.1 hm
        obtain ⟨hname, hsig⟩ := hwf.methods m' hm'
        exact ⟨hname, h.isSettled (List.mem_map_of_mem hm') hsig.function⟩
  | struct fields =>
    by_cases hne : fields = []
    · subst hne
      exact @writes_type _ hn .emptyStruct (Shape.everywhere_emptyStruct.2 trivial)
        (Shape.everywhere_emptyStruct.2 rfl)
    · refine writes_text_struct hn hne fun f hf ↦ ?_
      obtain ⟨hname, hshape⟩ := hwf f hf
      exact ⟨hname, h.isSettled (List.mem_map_of_mem hf) hshape⟩

/-- The printed form of a function is read as the function, its body tuned. -/
theorem writes_text_of_wellFormed {f : FuncDecl} (hwf : f.WellFormed)
    (h : (Decl.func f).Restorable) : Writes (Decl.func f).text (Decl.func f).tuned := by
  have hsig := h.isSettled (List.mem_cons_self ..) hwf.signature.function
  refine writes_text_tuned (fun r hr ↦ ?_) hwf.name hsig hwf.body
  have hmem : r ∈ f.receiver.toList := Option.mem_toList.2 hr
  have hsettled := h.isSettled (List.mem_cons_of_mem _ (List.mem_map_of_mem hmem))
    (hwf.receiver.shapes r hmem)
  refine ⟨⟨hwf.receiver.names r hmem, hsettled.1.proper, hsettled.2.1⟩, ?_⟩
  rw [ParamOf.reread, Shape.reread_of_isSettled hsettled]

/-- The printed form of a variable is read as the variable. -/
theorem parseDecl_text_var {v : VarSpec} (hwf : v.WellFormed) (h : (Decl.var v).Restorable) :
    parseDecl (Decl.var v).text = .ok (.ok (.var v)) := by
  obtain ⟨name, s, value⟩ := v
  have hs : ∀ t ∈ s, t.IsSettled := fun t ht ↦
    h.isSettled (Option.mem_toList.2 ht) (hwf.2 t ht)
  cases value with
  | none => exact parseDecl_of_writes (writes_text_var hwf.1 hs)
  | some e =>
    have hread := parseDecl_var hwf.1 hs (h.value e rfl)
    have htext : "var " ++ name ++ (s.map fun s ↦ " " ++ s.text).getD "" ++ " = " ++ e.text =
        (Decl.var ⟨name, s, some e⟩).text := by
      simp [Decl.text, VarSpec.text, String.append_assoc]
    rwa [htext] at hread

/-! ### All declarations -/

/-- **Printing is stable.** Let a declaration have been read in which no type contains a channel for
both directions of receive-only channels or a result list that is one variadic entry without a name,
no interface embeds `any`, and the value of a variable is read as itself. Then its printed form is
read as the tuned declaration, which has the same printed form. -/
theorem decl_round_trip {text : String} {d : Decl} (h : Decl.read text = .ok d)
    (hd : d.Restorable) : Decl.read d.text = .ok d.tuned ∧ d.tuned.text = d.text := by
  have hwf := wellFormed_of_parseDecl (read_eq_ok_iff.1 h)
  refine ⟨?_, d.text_tuned⟩
  cases d with
  | type spec => exact read_of_writes (writes_text_type hwf hd)
  | func f => exact read_of_writes (writes_text_of_wellFormed hwf hd)
  | var v => exact read_eq_ok_iff.2 (parseDecl_text_var hwf hd)

/-- The body of a function with a keyed line out of tune, a string over two lines, a character that
starts no token and a string that is not closed. -/
theorem decl_round_trip_messy :
    ∃ d, Decl.read "func f() \x7b\n a :b,\n\n\n x<-`c\n`@\"d\n\x7d" = .ok d ∧ d.tuned ≠ d ∧
      Decl.read d.text = .ok d.tuned ∧ d.tuned.text = d.text := by
  have hread : Decl.read "func f() \x7b\n a :b,\n\n\n x<-`c\n`@\"d\n\x7d" =
      .ok (.func ⟨none, "f", ⟨[], []⟩, ⟨[
        [⟨.ident "a", false⟩, ⟨.colon, true⟩, ⟨.ident "b", false⟩, ⟨.comma, false⟩],
        [],
        [⟨.ident "x", false⟩, ⟨.arrow, false⟩, ⟨.str "`c\n`", false⟩, ⟨.unknown '@', false⟩,
          ⟨.str "\"d", false⟩]]⟩⟩) := by
    decide +kernel
  exact ⟨_, hread, by decide, decl_round_trip hread ⟨by decide, by decide, by decide, by decide⟩⟩

end GoDecorator
