import GoDecorator.Proofs.Catalogue.Faults

/-!
# Wrappers have the methods of what they wrap

Eight of the patterns write a struct around an interface. `wrappings` lists them with the names that
each of them uses. **The last declarations of such a wrapper are its methods**, one for each method
of the interface and in the same order, and **each has the signature of the prepared method**
(`wrapper_has_methods`).

The receiver of a method is written with the name of the struct and read again with the rest of the
method. A predeclared name such as `int` comes back as the predeclared type, which is still written
as the name, and therefore refers to the struct (`Shape.RefersTo`). The one exception is `any`,
which is read as the empty interface and written as `interface{}`: a struct of this name has no
methods at all (`receiver_of_any`). Only the wrappers that carry the name of the interface can have
it.

A signature is written as text and read again on the way. It comes back as it was because each of
its types does, and because the other forms that go wrong are ruled out.
-/

namespace GoDecorator

open Token Pattern

/-- A pattern that writes a wrapper, and the names that it uses for a descriptor. -/
structure Wrapping where
  /-- The pattern, for a package. -/
  pattern : String → Pattern
  /-- The name of the struct. -/
  struct : Descriptor → String
  /-- The name of the receiver of its methods. -/
  receiver : Descriptor → String
  /-- The names that are reserved when a method is prepared. -/
  reserved : Descriptor → List String

/-- The wrapper with metrics for a backend. -/
def Wrapping.metrics (backend : String) : Wrapping where
  pattern := Pattern.metrics backend
  struct d := d.name
  receiver d := Metrics.receiverName d.name
  reserved d := [Metrics.receiverName d.name, backend, "time", "err"]

/-- The wrapper that bounds the calls in a second. -/
def Wrapping.throttle (mode : Throttle.Mode) : Wrapping :=
  ⟨Pattern.throttle mode, fun _ ↦ "Throttle", fun _ ↦ "t", fun _ ↦ ["t"]⟩

/-- The wrapper that does nothing but log its calls. -/
def Wrapping.logging : Wrapping := ⟨slog, Descriptor.name, fun _ ↦ "l", fun _ ↦ ["l", "slog"]⟩

/-- The patterns that write wrappers. -/
def wrappings : List Wrapping :=
  [.metrics "prometheus", .metrics "statsd", .logging,
   ⟨tracing, fun d ↦ d.name ++ "Tracer", fun _ ↦ "t",
    fun _ ↦ ["t", "span", "spanCtx", "err", "codes", "otel", "trace"]⟩,
   ⟨cache, fun _ ↦ "Cache", fun _ ↦ "c", fun _ ↦ ["c", "cached", "found", "ok", "err", "cache"]⟩,
   ⟨semaphore, fun _ ↦ "Semaphore", fun _ ↦ "s", fun _ ↦ ["s", "err"]⟩,
   .throttle .noError, .throttle .withError]

variable {package : String} {m : Method} {d : Descriptor} {w : Wrapping}

theorem Wrapping.mem_standardPatterns (hw : w ∈ wrappings) : w.pattern ∈ standardPatterns := by
  simp only [wrappings, List.mem_cons, List.not_mem_nil, or_false] at hw
  obtain rfl | rfl | rfl | rfl | rfl | rfl | rfl | rfl := hw <;>
    simp [standardPatterns, Wrapping.metrics, Wrapping.logging, Wrapping.throttle]

/-- **Each of them comes to a wrapper or to a fault of a template.** -/
theorem Wrapping.exists_yields (hw : w ∈ wrappings) (hp : IsName package) (hd : d.WellFormed)
    (hv : (w.pattern package).validate d = .ok ()) :
    ∃ cond, Yields ((w.pattern package).generate d) cond
      (Wraps (w.receiver d) (w.struct d)
        (d.methods.map fun m ↦ (m.prepare package (w.reserved d)).1)) := by
  simp only [wrappings, List.mem_cons, List.not_mem_nil, or_false] at hw
  obtain rfl | rfl | rfl | rfl | rfl | rfl | rfl | rfl := hw
  · exact ⟨_, Metrics.yields_generate (by decide) hd hp⟩
  · exact ⟨_, Metrics.yields_generate (by decide) hd hp⟩
  · exact ⟨_, Logging.yields_generate hd hp⟩
  · exact ⟨_, Tracing.yields_generate hd hp hv⟩
  · exact ⟨_, Cache.yields_generate hd hp hv⟩
  · exact ⟨_, Semaphore.yields_generate hd hp⟩
  · exact ⟨_, Throttle.yields_generate .noError hd hp⟩
  · exact ⟨_, Throttle.yields_generate .withError hd hp⟩

/-! ### Signatures that are read as themselves -/

/-- A type that is read as itself. -/
theorem Shape.reread_of_read {s : Shape} (hs : s.Proper) (h : Shape.read s.text = .ok s) :
    s.Readable ∧ s.reread = s := by
  by_cases hr : s.Readable
  · exact ⟨hr, Except.ok.inj ((read_text_of_readable hs hr).symm.trans h)⟩
  · obtain ⟨e, he⟩ := read_text_of_not_readable hs hr
    rw [he] at h
    cases h

/-- The types of a method are read as themselves once they are qualified. -/
def Method.ReadsItself (package : String) (m : Method) : Prop :=
  ∀ p ∈ (m.qualified package).params ++ (m.qualified package).results,
    Shape.read p.shape.text = .ok p.shape

theorem Method.reread_of_readsItself (hm : m.WellFormed) (hp : IsName package)
    (h : m.ReadsItself package) :
    ∀ p ∈ (m.qualified package).params ++ (m.qualified package).results,
      p.shape.Readable ∧ p.shape.reread = p.shape := by
  intro p hmem
  refine Shape.reread_of_read ?_ (h p hmem)
  rcases List.mem_append.1 hmem with hmem | hmem
  · exact (Method.proper_params_qualified hm hp p hmem).1
  · exact (Method.proper_results_qualified hm hp p hmem).1

/-- **The signature of the prepared method is read as itself.** -/
theorem Method.reread_signature_prepare (hm : m.WellFormed) (hp : IsName package)
    (h : m.ReadsItself package) (reserved : List String) :
    (m.prepare package reserved).1.signature.reread = (m.prepare package reserved).1.signature := by
  have hshapes := m.reread_of_readsItself hm hp h
  have hself {ps : List Param} (hps : ∀ p ∈ ps, p.shape.reread = p.shape) :
      ps.map ParamOf.reread = ps := by
    refine (List.map_congr_left fun p hp ↦ ?_).trans (List.map_id ps)
    show ({ p with shape := p.shape.reread } : Param) = p
    rw [hps p hp]
  refine congrArg₂ SignatureOf.mk (hself fun q hq ↦ ?_) (hself fun r hr ↦ ?_)
  · -- The types of the parameters are not touched by renaming them.
    obtain ⟨p, hmem, hpq⟩ := exists_of_mem_right (m.forall₂_prepare package reserved) hq
    rw [hpq.shape]
    exact (hshapes p (List.mem_append_left _ hmem)).2
  · exact (hshapes r (List.mem_append_right _ hr)).2

/-- A descriptor whose types are read as themselves is clear if it has no variadic results. -/
theorem Descriptor.clear_of_readsItself (hd : d.WellFormed) (hp : IsName package)
    (hname : IsUndotted d.name)
    (hundotted : ∀ m ∈ d.methods, ∀ p ∈ m.params ++ m.results, p.shape.IsUndotted)
    (hreads : ∀ m ∈ d.methods, m.ReadsItself package)
    (hresults : ∀ m ∈ d.methods, ∀ r ∈ m.results, r.variadic = false) : d.Clear package where
  undotted := hname
  methods m hm :=
    { undotted := hundotted m hm
      shapes p hmem := (m.reread_of_readsItself (hd.methods m hm) hp (hreads m hm) p hmem).1
      lone r hr := hresults m hm r (hr ▸ List.mem_singleton_self r) }

/-! ### Receivers -/

/-- The type that the given name refers to in a package that declares it: the type of this name. A
predeclared name refers to the declared type as well, and is still read as the predeclared one. -/
inductive Shape.RefersTo (name : String) : Shape → Prop
  /-- The name is not predeclared. -/
  | declared : RefersTo name (.named none name)
  /-- The name is predeclared, and declared once more. -/
  | redeclared {p : Primitive} (h : p.text = name) : RefersTo name (.primitive p)

/-- Nothing but the type of the package has a name that is not predeclared. -/
theorem Shape.RefersTo.eq_named {name : String} {s : Shape} (h : s.RefersTo name)
    (hname : Primitive.ofText? name = none) : s = .named none name := by
  cases h with
  | declared => rfl
  | @redeclared p htext =>
    have hsome : Primitive.ofText? name = some p := htext ▸ p.ofText?_text
    exact absurd (hsome.symm.trans hname) (Option.some_ne_none p)

/-- There is one name that is not read as what it refers to. -/
theorem Shape.refersTo_ofIdent {name : String} (h : name ≠ "any") :
    (Shape.ofIdent name).RefersTo name := by
  rw [ofIdent, if_neg h]
  cases hp : Primitive.ofText? name with
  | none => exact .declared
  | some p =>
    have htext : p.text = name := by simpa using List.find?_some hp
    exact .redeclared htext

/-- The empty interface is not a declared type. -/
theorem Shape.not_refersTo_any (name : String) : ¬ Shape.any.RefersTo name := nofun

/-! ### Methods -/

/-- The wrapper is written, with the struct and with a method for each method of the interface. The
name of the struct is read as a type in front of each method. -/
theorem Wrapping.exists_wrapper (hp : IsName package) (hd : d.WellFormed)
    (hname : IsUndotted d.name)
    (hundotted : ∀ m ∈ d.methods, ∀ p ∈ m.params ++ m.results, p.shape.IsUndotted)
    (hreads : ∀ m ∈ d.methods, m.ReadsItself package)
    (hresults : ∀ m ∈ d.methods, ∀ r ∈ m.results, r.variadic = false)
    (hw : w ∈ wrappings) (hv : (w.pattern package).validate d = .ok ()) :
    ∃ ds, ((w.pattern package).generate d).outcome = .ok ds ∧
      (∃ fields, .type ⟨w.struct d, .struct fields⟩ ∈ ds) ∧
      ∃ front rear, ds = front ++ rear ∧
        List.Forall₂ (fun m decl ↦ ∃ body, decl =
          .func ⟨some ⟨some (w.receiver d), .pointer (.ofIdent (w.struct d)), false⟩, m.name,
            (m.prepare package (w.reserved d)).1.signature, body⟩) d.methods rear := by
  have hclear := Descriptor.clear_of_readsItself hd hp hname hundotted hreads hresults
  obtain ⟨ds, hds⟩ := exists_generate_of_clear (Wrapping.mem_standardPatterns hw) hp hd hclear hv
  obtain ⟨cond, hyields⟩ := Wrapping.exists_yields hw hp hd hv
  have hwraps := hyields.of_answer hds
  refine ⟨ds, hds, hwraps.struct, ?_⟩
  obtain ⟨front, rear, hrear, hmethods⟩ := hwraps.methods
  have hself (m : Method) (hm : m ∈ d.methods) :=
    Method.reread_signature_prepare (hd.methods m hm) hp (hreads m hm) (w.reserved d)
  refine ⟨front, rear, hrear, ?_⟩
  refine ((List.forall₂_and_left _ _).2 ⟨hself, List.forall₂_map_left_iff.1 hmethods⟩).imp ?_
  rintro m decl ⟨hself, body, hdecl⟩
  rw [hself] at hdecl
  exact ⟨body, hdecl⟩

/-- **A wrapper has the methods of what it wraps.** The declarations are there, one of them is the
struct, and the last ones are its methods: each has the name of a method of the interface, in order,
and the signature of the prepared method. The receiver is a pointer to the struct, except that for a
struct named `any` it is a pointer to the empty interface. Names in ASCII do not start with the
dotted capital. -/
theorem wrapper_has_methods (hp : IsName package) {source : String} {file : SourceFile}
    (hparse : parseSource source = .ok (.ok file)) {spec : TypeSpec}
    (hspec : .type spec ∈ file.decls) (hd : spec.descriptor? = some d) (hname : IsUndotted d.name)
    (hundotted : ∀ m ∈ d.methods, ∀ p ∈ m.params ++ m.results, p.shape.IsUndotted)
    (hreads : ∀ m ∈ d.methods, m.ReadsItself package)
    (hresults : ∀ m ∈ d.methods, ∀ r ∈ m.results, r.variadic = false)
    (hw : w ∈ wrappings) (hv : (w.pattern package).validate d = .ok ()) :
    ∃ ds, ((w.pattern package).generate d).outcome = .ok ds ∧
      (∃ fields, .type ⟨w.struct d, .struct fields⟩ ∈ ds) ∧
      ∃ self : Shape, (w.struct d ≠ "any" → self.RefersTo (w.struct d)) ∧
        (w.struct d = "any" → self = .any) ∧
        ∃ front rear, ds = front ++ rear ∧
          List.Forall₂ (fun m decl ↦ ∃ body, decl =
            .func ⟨some ⟨some (w.receiver d), .pointer self, false⟩, m.name,
              (m.prepare package (w.reserved d)).1.signature, body⟩) d.methods rear := by
  have hwf : d.WellFormed := wellFormed_of_descriptor? (wellFormed_of_parseSource hparse _ hspec) hd
  obtain ⟨ds, hds, hstruct, hmethods⟩ :=
    Wrapping.exists_wrapper hp hwf hname hundotted hreads hresults hw hv
  have hany (h : w.struct d = "any") : Shape.ofIdent (w.struct d) = .any := by
    rw [h]
    rfl
  exact ⟨ds, hds, hstruct, .ofIdent (w.struct d), Shape.refersTo_ofIdent, hany, hmethods⟩

set_option maxRecDepth 8000 in
/-- The method of a semaphore: its parameters have got names, and its types a package. -/
theorem wrapper_has_methods_semaphore :
    ∃ file spec d ds front body,
      parseSource "package p\n\ntype A interface\x7bM(context.Context, ...[]B) error\x7d\n" =
        .ok (.ok file) ∧
      .type spec ∈ file.decls ∧ spec.descriptor? = some d ∧
      ((semaphore "abc").generate d).outcome = .ok ds ∧
      ds = front ++ [.func ⟨some ⟨some "s", .pointer (.named none "Semaphore"), false⟩, "M",
        ⟨[⟨some "ctx", .context, false⟩, ⟨some "bs", .slice (.named (some "abc") "B"), true⟩],
          [⟨none, .primitive .error, false⟩]⟩, body⟩] := by
  have hparse : parseSource
      "package p\n\ntype A interface\x7bM(context.Context, ...[]B) error\x7d\n" =
        .ok (.ok ⟨"p", [.type ⟨"A", .interface ⟨[⟨"M",
          ⟨[⟨none, .context, false⟩, ⟨none, .slice (.named none "B"), true⟩],
            [⟨none, .primitive .error, false⟩]⟩⟩], []⟩⟩]⟩) := by decide +kernel
  have hreads : Method.ReadsItself "abc"
      ⟨"M", [⟨none, .context, false⟩, ⟨none, .slice (.named none "B"), true⟩],
        [⟨none, .primitive .error, false⟩]⟩ := by
    unfold Method.ReadsItself
    decide +kernel
  have hundotted : ∀ p ∈ [⟨none, .context, false⟩, ⟨none, .slice (.named none "B"), true⟩,
      (⟨none, .primitive .error, false⟩ : Param)], p.shape.IsUndotted :=
    List.forall_mem_cons.2 ⟨Shape.everywhere_context.2 trivial, List.forall_mem_cons.2
      ⟨Shape.everywhere_slice.2 ⟨trivial, Shape.everywhere_named.2 (by decide)⟩,
        List.forall_mem_singleton.2 (Shape.everywhere_primitive.2 trivial)⟩⟩
  have hmember : ⟨semaphore, fun _ ↦ "Semaphore", fun _ ↦ "s", fun _ ↦ ["s", "err"]⟩ ∈
      wrappings := by simp [wrappings]
  obtain ⟨ds, hds, -, self, hself, -, front, rear, hrear, hmethods⟩ := wrapper_has_methods
    (by decide) hparse (List.mem_singleton_self _) rfl (by decide)
    (List.forall_mem_singleton.2 hundotted) (List.forall_mem_singleton.2 hreads)
    (List.forall_mem_singleton.2 (List.forall_mem_singleton.2 rfl)) hmember rfl
  obtain rfl : self = .named none "Semaphore" := (hself (by decide)).eq_named (by decide)
  cases hmethods with
  | cons hmethod hnone =>
    obtain ⟨body, hmethod⟩ := hmethod
    cases hnone
    exact ⟨_, _, _, ds, front, body, hparse, List.mem_singleton_self _, rfl, hds,
      by rw [hrear, hmethod]; rfl⟩

/-- **The wrapper of an interface named `any` lacks the method.** The struct is declared with this
name, and what is meant to be its method has a pointer to the empty interface as its receiver. -/
theorem receiver_of_any :
    ∃ file spec d,
      parseSource "package p\n\ntype any interface\x7bM()\x7d\n" = .ok (.ok file) ∧
      .type spec ∈ file.decls ∧ spec.descriptor? = some d ∧ IsUndotted d.name ∧
      ∀ w ∈ [Wrapping.metrics "prometheus", .metrics "statsd", .logging],
        (w.pattern "abc").validate d = .ok () ∧
        ∃ ds fields front body, ((w.pattern "abc").generate d).outcome = .ok ds ∧
          .type ⟨"any", .struct fields⟩ ∈ ds ∧
          ds = front ++ [.func ⟨some ⟨some (w.receiver d), .pointer .any, false⟩, "M",
            ⟨[], []⟩, body⟩] ∧
          ¬ Shape.any.RefersTo "any" := by
  have hparse : parseSource "package p\n\ntype any interface\x7bM()\x7d\n" =
      .ok (.ok ⟨"p", [.type ⟨"any", .interface ⟨[⟨"M", ⟨[], []⟩⟩], []⟩⟩]⟩) := by decide +kernel
  have hwf : Descriptor.WellFormed ⟨"any", .interface, [⟨"M", [], []⟩]⟩ :=
    wellFormed_of_descriptor? (wellFormed_of_parseSource hparse _ (List.mem_singleton_self _)) rfl
  refine ⟨_, _, _, hparse, List.mem_singleton_self _, rfl, by decide, fun w hw ↦ ?_⟩
  obtain ⟨hstruct, hvalid⟩ : w.struct = Descriptor.name ∧
      (w.pattern "abc").validate ⟨"any", .interface, [⟨"M", [], []⟩]⟩ = .ok () := by
    simp only [List.mem_cons, List.not_mem_nil, or_false] at hw
    obtain rfl | rfl | rfl := hw <;> exact ⟨rfl, rfl⟩
  have hmember : w ∈ wrappings := List.mem_of_mem_take (i := 3) hw
  obtain ⟨ds, hds, ⟨fields, hfields⟩, front, rear, hrear, hmethods⟩ :=
    Wrapping.exists_wrapper (by decide) hwf (by decide) (by simp)
      (List.forall_mem_singleton.2 fun _ hp ↦ absurd hp List.not_mem_nil) (by simp) hmember hvalid
  rw [hstruct] at hfields
  cases hmethods with
  | cons hmethod hnone =>
    obtain ⟨body, hmethod⟩ := hmethod
    cases hnone
    refine ⟨hvalid, ds, fields, front, body, hds, hfields, ?_, Shape.not_refersTo_any _⟩
    rw [hrear, hmethod, hstruct]
    rfl

end GoDecorator
