import GoDecorator.Pattern.Basic

/-!
# Patterns that hold calls back

Wrappers that let only so many calls through: so many at the same time, or so many in a second.
-/

namespace GoDecorator.Pattern

open Template

/-! ### A bound on simultaneous calls -/

namespace Semaphore

/-- The struct that holds the wrapped value and the slots for calls. -/
def structTemplate : String := r#"
type Semaphore struct {
	{{Field}} {{Iface}}
	slots chan struct{}
}
"#

/-- The constructor of the wrapper. -/
def constructorTemplate : String := r#"
func New({{Field}} {{Iface}}, allowedParallelExecutions int) *Semaphore {
	return &Semaphore{
		{{Field}}: {{Field}},
		slots: make(chan struct{}, allowedParallelExecutions),
	}
}
"#

/-- A method that waits for a slot. -/
def methodTemplate : String := r#"
func (s *Semaphore) {{Method}}{{Signature}} {
	s.slots <- struct{}{}
	defer func() { <-s.slots }()

	{{Forward}}
}
"#

/-- A method that waits for a slot until its context is done. -/
def contextMethodTemplate : String := r#"
func (s *Semaphore) {{Method}}{{Signature}} {
	if err := {{Ctx}}.Err(); err != nil {
		return {{Cancelled}}
	}

	select {
	case s.slots <- struct{}{}:
		defer func() { <-s.slots }()
		{{Forward}}
	case <-{{Ctx}}.Done():
		return {{Aborted}}
	}
}
"#

/-- The wrapper of one method. -/
def method (package field : String) (m : Method) : Traced Decl := do
  let m := (m.prepare package ["s", "err"]).1
  let call := m.delegate "s" field m.callArgs
  let bindings : Bindings :=
    [("Method", .text m.name), ("Signature", .text m.signature.text),
     ("Forward", .text (m.forward call))]
  match m.contextName? with
  | none => renderDecl bindings methodTemplate
  | some ctx =>
    let err ← Expr.read (ctx ++ ".Err()")
    renderDecl
      (bindings ++
        [("Ctx", .text ctx), ("Cancelled", .exprs (m.zeroResults ++ [.ident "err"])),
         ("Aborted", .exprs (m.zeroResults ++ [err]))])
      contextMethodTemplate

/-- A method that takes a context can fail. -/
def expectCancellable (m : Method) : Check Unit :=
  if m.takesContext then m.expectError else return ()

end Semaphore

/-- Lets only so many calls through at the same time. -/
def semaphore (package : String) : Pattern where
  name := "semaphore"
  description := "Simple semaphore implementation"
  kind := .interface
  validate d := d.forEachMethod Semaphore.expectCancellable
  generate d := do
    let field := d.fieldName ["slots", "s", "allowedParallelExecutions"]
    let bindings : Bindings := [("Field", .text field), ("Iface", .type (d.wrapped package))]
    let struct ← renderDecl bindings Semaphore.structTemplate
    let constructor ← renderDecl bindings Semaphore.constructorTemplate
    let methods ← d.methods.mapM (Semaphore.method package field)
    return struct :: constructor :: methods

/-! ### A bound on calls in a second -/

namespace Throttle

/-- What the caller sees of a call that is held back. -/
inductive Mode where
  /-- Nothing, or no error. -/
  | noError
  /-- An error. -/
  | withError
deriving DecidableEq, Repr

/-- The error of a call that is held back. -/
def sentinel : String := r#"var ErrThrottled = errors.New("rate limit exceeded")"#

/-- The struct that holds the wrapped value and the state of the current interval. -/
def structTemplate : String := r#"
type Throttle struct {
	{{Field}} {{Iface}}
	ticker *time.Ticker
	mu sync.Mutex
	alreadyCalled bool
}
"#

/-- The constructor of the wrapper. -/
def constructorTemplate : String := r#"
func New({{Field}} {{Iface}}, passesPerSecond int) *Throttle {
	t := &Throttle{
		{{Field}}: {{Field}},
		ticker: time.NewTicker(time.Second / time.Duration(passesPerSecond)),
	}

	go t.resetCounter()
	return t
}
"#

/-- The loop that starts each interval. -/
def resetText : String := r#"
func (t *Throttle) resetCounter() {
	for range t.ticker.C {
		t.mu.Lock()
		t.alreadyCalled = false
		t.mu.Unlock()
	}
}
"#

/-- A method. -/
def methodTemplate : String := r#"
func (t *Throttle) {{Method}}{{Signature}} {
	t.mu.Lock()
	if t.alreadyCalled {
		t.mu.Unlock()
		return {{Rejected}}
	}
	t.alreadyCalled = true
	t.mu.Unlock()

	{{Forward}}
}
"#

/-- What a call that is held back returns. -/
def refusal (mode : Mode) (m : Method) : List Expr :=
  match mode with
  | .noError => if m.results.isEmpty then [] else [.nil]
  | .withError => m.zeroResults ++ [.ident "ErrThrottled"]

/-- The wrapper of one method. -/
def method (mode : Mode) (package field : String) (m : Method) : Traced Decl :=
  let m := (m.prepare package ["t"]).1
  let call := m.delegate "t" field m.callArgs
  renderDecl
    [("Method", .text m.name), ("Signature", .text m.signature.text),
     ("Rejected", .exprs (refusal mode m)), ("Forward", .text (m.forward call))]
    methodTemplate

/-- The name of the pattern. -/
def name : Mode → String
  | .noError => "throttle"
  | .withError => "throttle-error"

/-- The description of the pattern. -/
def description : Mode → String
  | .noError => "Process at most n requests per second, on throttled call return no error"
  | .withError => "Process at most n requests per second, on throttled call return an error"

/-- The condition on a method. -/
def expectRefusable : Mode → Method → Check Unit
  | .noError => Method.expectAtMostError
  | .withError => Method.expectError

/-- The declaration of the error, in the mode that has one. -/
def sentinelDecls : Mode → Traced (List Decl)
  | .noError => return []
  | .withError => return [← Decl.read sentinel]

end Throttle

/-- Lets only so many calls through in a second. -/
def throttle (mode : Throttle.Mode) (package : String) : Pattern where
  name := Throttle.name mode
  description := Throttle.description mode
  kind := .interface
  validate d := d.forEachMethod (Throttle.expectRefusable mode)
  generate d := do
    let field :=
      d.fieldName ["ticker", "mu", "alreadyCalled", "t", "passesPerSecond", "time"]
    let bindings : Bindings := [("Field", .text field), ("Iface", .type (d.wrapped package))]
    let sentinel ← Throttle.sentinelDecls mode
    let struct ← renderDecl bindings Throttle.structTemplate
    let constructor ← renderDecl bindings Throttle.constructorTemplate
    let reset ← Decl.read (Text.trim Throttle.resetText)
    let methods ← d.methods.mapM (Throttle.method mode package field)
    return sentinel ++ struct :: constructor :: reset :: methods

end GoDecorator.Pattern
