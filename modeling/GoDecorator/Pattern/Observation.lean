import GoDecorator.Pattern.Basic

/-!
# Patterns that observe calls

Wrappers that measure or trace the calls of an interface, and an implementation that does nothing
but write them to a log.
-/

namespace GoDecorator.Pattern

open Template

/-! ### Metrics -/

namespace Metrics

/-- The struct that holds the wrapped value. -/
def structTemplate : String := r#"
type {{Type}} struct {
	{{Field}} {{Iface}}
}
"#

/-- The constructor of the wrapper. -/
def constructorTemplate : String := r#"
func New{{Type}}({{Field}} {{Iface}}) *{{Type}} {
	return &{{Type}}{
		{{Field}}: {{Field}},
	}
}
"#

/-- A method that cannot fail. -/
def methodTemplate : String := r#"
func ({{Recv}} *{{Type}}) {{Method}}{{Signature}} {
	{{Backend}}.Increment("{{Measure}}")
	defer {{Backend}}.ObserveDuration("{{Measure}}_seconds", time.Now())

	{{Forward}}
}
"#

/-- A method that can fail. -/
def errorMethodTemplate : String := r#"
func ({{Recv}} *{{Type}}) {{Method}}{{Signature}} {
	{{Backend}}.Increment("{{Measure}}")
	defer {{Backend}}.ObserveDuration("{{Measure}}_seconds", time.Now())

	{{Results}} := {{Call}}
	if err != nil {
		{{Backend}}.Increment("{{Measure}}_error")
	}

	return {{Results}}
}
"#

/-- The name of the receiver: the first letter of the wrapper's name, in lower case. -/
def receiverName (typeName : String) : String :=
  match typeName.toList with
  | [] => "m"
  | c :: _ => String.ofList (Text.lowercase c)

/-- The wrapper of one method. -/
def method (backend package : String) (d : Descriptor) (receiver field : String) (m : Method) :
    Traced Decl :=
  let (m, names) := m.prepare package [receiver, backend, "time", "err"]
  let call := m.delegate receiver field m.callArgs
  let bindings : Bindings :=
    [("Recv", .text receiver), ("Type", .text d.name), ("Method", .text m.name),
     ("Signature", .text m.signature.text), ("Backend", .text backend),
     ("Measure", .text (measureName d.name m.name))]
  if m.returnsError then
    let results := (m.resultNames names).1 ++ ["err"]
    renderDecl (bindings ++ [("Results", .text (commaSeparated results)), ("Call", .expr call)])
      errorMethodTemplate
  else renderDecl (bindings ++ [("Forward", .text (m.forward call))]) methodTemplate

end Metrics

/-- Counts calls and failures and measures durations, with the client package of the given name. -/
def metrics (backend package : String) : Pattern where
  name := backend
  description := "Generates observability metrics for a given interface"
  kind := .interface
  validate _ := return ()
  generate d := do
    let receiver := Metrics.receiverName d.name
    let field := d.fieldName [backend, "time"]
    let bindings : Bindings :=
      [("Type", .text d.name), ("Field", .text field), ("Iface", .type (d.wrapped package))]
    let struct ← renderDecl bindings Metrics.structTemplate
    let constructor ← renderDecl bindings Metrics.constructorTemplate
    let methods ← d.methods.mapM (Metrics.method backend package d receiver field)
    return struct :: constructor :: methods

/-! ### Logging -/

namespace Logging

/-- The struct, which holds nothing. -/
def structTemplate : String := r#"type {{Type}} struct{}"#

/-- The constructor. -/
def constructorTemplate : String := r#"
func New{{Type}}() *{{Type}} {
	return &{{Type}}{}
}
"#

/-- A method. -/
def methodTemplate : String := r#"
func (l *{{Type}}) {{Method}}{{Signature}} {
	{{Log}}
	{{Return}}
}
"#

/-- The text as a string literal. -/
def stringLiteral (text : String) : Expr := .literal ("\"" ++ text ++ "\"")

/-- The call that logs a method with the names and values of its parameters. -/
def logCall (d : Descriptor) (m : Method) : Expr :=
  let payload := m.payloadParams.flatMap fun p ↦
    let name := p.name.getD "_"
    [stringLiteral name, .ident name]
  let args := stringLiteral (measureName d.name m.name) :: payload
  match m.contextName? with
  | some ctx => .call (.ident "slog.InfoContext") (.ident ctx :: args)
  | none => .call (.ident "slog.Info") args

/-- The implementation of one method. -/
def method (package : String) (d : Descriptor) (m : Method) : Traced Decl :=
  let m := (m.prepare package ["l", "slog"]).1
  renderDecl
    [("Type", .text d.name), ("Method", .text m.name), ("Signature", .text m.signature.text),
     ("Log", .expr (logCall d m)),
     ("Return", .text (if m.results.isEmpty then "" else "return nil"))]
    methodTemplate

end Logging

/-- Writes each call and its arguments to the log, and does nothing else. -/
def slog (package : String) : Pattern where
  name := "slog"
  description :=
    "Generates slog stdout for a given interface, expect only single return errors in methods."
  kind := .interface
  validate d := d.forEachMethod Method.expectAtMostError
  generate d := do
    let struct ← renderDecl [("Type", .text d.name)] Logging.structTemplate
    let constructor ← renderDecl [("Type", .text d.name)] Logging.constructorTemplate
    let methods ← d.methods.mapM (Logging.method package d)
    return struct :: constructor :: methods

/-! ### Tracing -/

namespace Tracing

/-- The struct that holds the wrapped value and the tracer. -/
def structTemplate : String := r#"
type {{Type}} struct {
	{{Field}} {{Iface}}
	tracer trace.Tracer
}
"#

/-- The constructor of the wrapper. -/
def constructorTemplate : String := r#"
func New{{Type}}({{Field}} {{Iface}}) *{{Type}} {
	return &{{Type}}{
		{{Field}}: {{Field}},
		tracer: otel.Tracer("{{Scope}}"),
	}
}
"#

/-- A method. -/
def methodTemplate : String := r#"
func (t *{{Type}}) {{Method}}{{Signature}} {
	spanCtx, span := t.tracer.Start({{Ctx}}, "{{Span}}")
	defer span.End()

	{{Results}} := {{Call}}
	if err != nil {
		span.SetStatus(codes.Error, "{{Span}} failed")
		span.RecordError(err)
		return {{Results}}
	}

	span.AddEvent("{{Span}} succeeded")
	return {{Results}}
}
"#

/-- The names that a generated method uses for itself. -/
def locals : List String := ["t", "span", "spanCtx", "err", "codes", "otel", "trace"]

/-- The wrapper of one method. -/
def method (package : String) (d : Descriptor) (typeName field : String) (m : Method) :
    Traced Decl := do
  let (m, names) := m.prepare package locals
  let args ← replaceAt m.callArgs 0 (.ident "spanCtx")
  let results := (m.resultNames names).1 ++ ["err"]
  renderDecl
    [("Type", .text typeName), ("Method", .text m.name), ("Signature", .text m.signature.text),
     ("Ctx", .text (m.contextName?.getD "ctx")), ("Span", .text (d.name ++ "." ++ m.name)),
     ("Results", .text (commaSeparated results)), ("Call", .expr (m.delegate "t" field args))]
    methodTemplate

/-- The method takes a context and can fail. -/
def expectTraceable (m : Method) : Check Unit :=
  if m.takesContext then m.expectError else throw (.missingContext m.name)

end Tracing

/-- Starts a span for each call and records its outcome on it. -/
def tracing (package : String) : Pattern where
  name := "tracing"
  description := "Generate traceing wrapper"
  kind := .interface
  validate d := d.forEachMethod Tracing.expectTraceable
  generate d := do
    let typeName := d.name ++ "Tracer"
    let field := d.fieldName ["tracer", "otel", "trace"]
    let bindings : Bindings :=
      [("Type", .text typeName), ("Field", .text field), ("Iface", .type (d.wrapped package))]
    let struct ← renderDecl bindings Tracing.structTemplate
    let constructor ←
      renderDecl (bindings ++ [("Scope", .text (package ++ "." ++ d.name))])
        Tracing.constructorTemplate
    let methods ← d.methods.mapM (Tracing.method package d typeName field)
    return struct :: constructor :: methods

end GoDecorator.Pattern
