import GoDecorator.Pattern.Basic

/-!
# Patterns that keep results

Wrappers that keep the results of calls in memory, and a function that takes its result from a file.
All of them are for methods with two results, a value and an error.
-/

namespace GoDecorator.Pattern

open Template

/-! ### Results from a file -/

namespace FileGetter

/-- The function that makes the getter. -/
def template : String := r#"
func FileGetter(path string) {{FuncType}} {
	return func({{Params}}){{Results}} {
		data, err := os.ReadFile(path)
		if err != nil {
			return {{Zero}}, err
		}

		var {{Value}} {{Target}}
		if err := json.Unmarshal(data, &{{Value}}); err != nil {
			return {{Zero}}, err
		}

		return {{Loaded}}, nil
	}
}
"#

/-- The names that the generated function uses for itself. -/
def locals : List String := ["path", "data", "err", "os", "json"]

/-- The type that a file is decoded into, and the expression for the result once it has been decoded
into a variable: of a pointer the target is decoded, and its address is the result. -/
def decoding (result : Shape) : Shape × (String → Expr) :=
  match result with
  | .pointer target => (target, fun value ↦ .unary .address (.ident value))
  | other => (other, .ident)

end FileGetter

/-- A function of the given type that reads its result from a file. -/
def fileGetter (package : String) : Pattern where
  name := "file-getter"
  description := "Return a function of the given type that loads its result from a JSON file"
  kind := .function
  validate d := do (← d.singleMethod).expectValueAndError
  generate d := do
    let m := (← Traced.ofCheck d.singleMethod).qualified package
    let result ← elementAt m.results 0
    let (target, loaded) := FileGetter.decoding result.shape
    let names := ((Names.ofReserved FileGetter.locals).reserve package).2
    let value := (names.allocateFor target).1
    let unnamed := m.params.map ParamOf.withoutName
    let blank := m.params.map fun p ↦ { p with name := some "_" }
    let getter ← renderDecl
      [("FuncType", .type (.function ⟨unnamed, m.results⟩)), ("Params", .params blank),
       ("Results", .text (resultListText m.results)), ("Zero", .exprs m.zeroResults),
       ("Value", .text value), ("Target", .type target), ("Loaded", .expr (loaded value))]
      FileGetter.template
    return [getter]

/-! ### A store that is loaded again and again -/

namespace Store

/-- What happens when the first load fails. -/
inductive Mode where
  /-- The constructor does not return. -/
  | abort
  /-- The constructor returns the error. -/
  | withError
deriving DecidableEq, Repr

/-- The struct that holds the wrapped value and the last result. -/
def structTemplate : String := r#"
type Store struct {
	repo {{Iface}}
	interval time.Duration
	{{Lock}} sync.RWMutex
	{{Value}} {{Result}}
}
"#

/-- The constructor that does not return if the first load fails. -/
def abortingConstructorTemplate : String := r#"
func New(repo {{Iface}}, interval time.Duration) *Store {
	s := &Store{
		repo: repo,
		interval: interval,
	}

	if err := s.load(); err != nil {
		panic(fmt.Sprintf("loading store failed: %v", err))
	}

	go s.loop()
	return s
}
"#

/-- The constructor that returns an error if the first load fails. -/
def failingConstructorTemplate : String := r#"
func New(repo {{Iface}}, interval time.Duration) (*Store, error) {
	s := &Store{
		repo: repo,
		interval: interval,
	}

	if err := s.load(); err != nil {
		return nil, fmt.Errorf("loading store failed: %w", err)
	}

	go s.loop()
	return s, nil
}
"#

/-- The loop that loads the result again. -/
def loopTemplate : String := r#"
func (s *Store) loop() {
	for {
		time.Sleep(s.interval)
		if err := s.load(); err != nil {
			log.Println("reloading store failed:", err)
		}
	}
}
"#

/-- The function that loads the result. -/
def loadTemplate : String := r#"
func (s *Store) load() error {
	{{Value}}, err := s.repo.{{Method}}({{Args}})
	if err != nil {
		return err
	}

	s.{{Lock}}.Lock()
	s.{{Value}} = {{Value}}
	s.{{Lock}}.Unlock()
	return nil
}
"#

/-- The method that returns the last result. -/
def getterTemplate : String := r#"
func (s *Store) {{Method}}{{Signature}} {
	s.{{Lock}}.RLock()
	defer s.{{Lock}}.RUnlock()

	return s.{{Value}}, nil
}
"#

/-- The names that the generated code uses besides those of the value and its lock. -/
def locals : List String :=
  ["s", "repo", "interval", "err", "load", "loop", "time", "sync", "log", "fmt"]

/-- The method takes nothing but a context. -/
def expectNoPayload (m : Method) : Check Unit :=
  if m.payloadParams.isEmpty then return () else throw (.unexpectedParams m.name)

/-- The arguments of the call that loads the result. -/
def loadArgs (m : Method) : Outcome (List Expr) :=
  if m.takesContext then do return [← Expr.read "context.Background()"] else return []

/-- The name of the pattern. -/
def name : Mode → String
  | .abort => "store"
  | .withError => "store-error"

/-- The description of the pattern. -/
def description : Mode → String
  | .abort => "Keep the result of a getter in memory and refresh it periodically, " ++
      "panic if the first load fails"
  | .withError => "Keep the result of a getter in memory and refresh it periodically, " ++
      "return an error if the first load fails"

/-- The constructor. -/
def constructorTemplate : Mode → String
  | .abort => abortingConstructorTemplate
  | .withError => failingConstructorTemplate

end Store

/-- Keeps the result of a getter and loads it again from time to time. -/
def store (mode : Store.Mode) (package : String) : Pattern where
  name := Store.name mode
  description := Store.description mode
  kind := .interface
  validate d := do
    let m ← d.singleMethod
    Store.expectNoPayload m
    m.expectValueAndError
  generate d := do
    let m := ((← Traced.ofCheck d.singleMethod).prepare package Store.locals).1
    let result := (← elementAt m.results 0).shape
    let names := ((Names.ofReserved Store.locals).reserve package).2
    let (value, names) := names.allocateFor result
    let lock := (names.allocate (value ++ "Lock")).1
    let args ← Store.loadArgs m
    let iface := Value.type (d.wrapped package)
    let struct ← renderDecl
      [("Iface", iface), ("Lock", .text lock), ("Value", .text value), ("Result", .type result)]
      Store.structTemplate
    let constructor ← renderDecl [("Iface", iface)] (Store.constructorTemplate mode)
    let loop ← renderDecl [] Store.loopTemplate
    let load ← renderDecl
      [("Value", .text value), ("Lock", .text lock), ("Method", .text m.name),
       ("Args", .exprs args)]
      Store.loadTemplate
    let getter ← renderDecl
      [("Method", .text m.name), ("Signature", .text m.signature.text), ("Lock", .text lock),
       ("Value", .text value)]
      Store.getterTemplate
    return [struct, constructor, loop, load, getter]

/-! ### A cache -/

namespace Cache

/-- The struct that holds the wrapped value and the cached results. -/
def structTemplate : String := r#"
type Cache struct {
	{{Field}} {{Iface}}
	cache *cache.Cache
}
"#

/-- The constructor of the wrapper. -/
def constructorTemplate : String := r#"
func New({{Field}} {{Iface}}, expiration time.Duration, cleanupInterval time.Duration) *Cache {
	return &Cache{
		{{Field}}: {{Field}},
		cache: cache.New(expiration, cleanupInterval),
	}
}
"#

/-- A method. -/
def methodTemplate : String := r#"
func (c *Cache) {{Method}}{{Signature}} {
	if cached, found := c.cache.Get({{Key}}); found {
		if {{Value}}, ok := cached.({{Result}}); ok {
			return {{Value}}, nil
		}
	}

	{{Value}}, err := {{Call}}
	if err != nil {
		return {{Zero}}, err
	}

	c.cache.Set({{Key}}, {{Value}}, cache.DefaultExpiration)
	return {{Value}}, nil
}
"#

/-- The names that a generated method uses for itself. -/
def locals : List String := ["c", "cached", "found", "ok", "err", "cache"]

/-- The key of a call: the only argument besides the context, if it is a string, and otherwise one
key for all calls. -/
def key (m : Method) : Expr :=
  match m.payloadParams with
  | [⟨name, .primitive .string, false⟩] => .ident (name.getD "_")
  | _ => .literal "\"key\""

/-- The wrapper of one method. -/
def method (package field : String) (m : Method) : Traced Decl := do
  let (m, names) := m.prepare package locals
  let result := (← elementAt m.results 0).shape
  let value := (names.allocateFor result).1
  renderDecl
    [("Method", .text m.name), ("Signature", .text m.signature.text), ("Key", .expr (key m)),
     ("Value", .text value), ("Result", .type result),
     ("Call", .expr (m.delegate "c" field m.callArgs)), ("Zero", .exprs m.zeroResults)]
    methodTemplate

end Cache

/-- Keeps the results of calls that succeed. -/
def cache (package : String) : Pattern where
  name := "cache"
  description := "Cache results of wrapped interface"
  kind := .interface
  validate d := d.forEachMethod Method.expectValueAndError
  generate d := do
    let field := d.fieldName ["cache", "expiration", "cleanupInterval", "time"]
    let bindings : Bindings := [("Field", .text field), ("Iface", .type (d.wrapped package))]
    let struct ← renderDecl bindings Cache.structTemplate
    let constructor ← renderDecl bindings Cache.constructorTemplate
    let methods ← d.methods.mapM (Cache.method package field)
    return struct :: constructor :: methods

end GoDecorator.Pattern
