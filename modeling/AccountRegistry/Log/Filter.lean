import AccountRegistry.Log

/-!
Which events and spans a process keeps, from a filter text such as
`ci_cli=info,customer_identity_server=debug`.

A filter is a comma-separated list of directives; empty ones are skipped. A directive is
`scope` or `scope=level`, or a level alone, which applies to every module. A level is an
unsigned decimal number from 0 (off) to 5 (trace), with an optional `+`, or one of `off`,
`error`, `warn`, `info`, `debug`, `trace` in any case. Without a level, or with an empty
one after `=`, a directive admits everything; a directive with `=` needs a scope. A scope is a module path, taken as written (any
characters but `[`), optionally followed by `[span]` or `[span{fields}]`: such a directive is
*dynamic*, and only admits events inside a span of that name (of a module under the path,
with the listed fields, `name` or `name=value`, comma-separated).

An event is kept when the most specific static directive that applies to its module (the
longest matching path, later ones winning ties; a level alone matches every module) admits its
level, or when it happens inside a span that a dynamic directive matches with a level that
admits it. A span is shown when it is kept at the info level in the same way, or a dynamic
directive matches it.
-/

set_option autoImplicit false

namespace AccountRegistry

/-- One directive: an optional module path, the span name and fields it is limited to (for a
dynamic directive), and the most verbose level it admits, 0 for none. -/
structure Directive where
  target : Option String
  span : Option String := none
  fields : List (String × Option String) := []
  rank : Nat
  deriving DecidableEq, Repr

/-- Whether a directive only applies inside matching spans. -/
def Directive.isDynamic (d : Directive) : Bool := d.span.isSome || !d.fields.isEmpty

/-- Whether a directive's path covers a module. -/
def Directive.covers (d : Directive) (target : String) : Bool :=
  match d.target with
  | some t => target.startsWith t
  | none => true

/-- Whether a dynamic directive matches a span: its name, its module and the fields it lists
(with the value shown, when the directive gives one). -/
def Directive.matchesSpan (d : Directive) (s : Span) : Bool :=
  d.isDynamic && d.span.all (· == s.name) && d.covers s.target &&
    d.fields.all fun (name, value) =>
      match s.fields.lookup name, value with
      | some _, none => true
      | some v, some want => v.plain == want
      | none, _ => false

/-- A filter: its directives. -/
structure LogFilter where
  directives : List Directive
  deriving DecidableEq, Repr

namespace LogFilter

/-- Reads an unsigned machine-word decimal: an optional `+` and at least one digit. -/
def readWord? (s : String) : Option Nat :=
  let ds := match s.toList with
    | '+' :: rest => rest
    | cs => cs
  if !ds.isEmpty && ds.all Char.isDigit then
    let n := ds.foldl (fun acc c => acc * 10 + (c.toNat - '0'.toNat)) 0
    if n < Nat.pow 2 64 then some n else none
  else none

/-- The verbosity a level text stands for. -/
def rankOf? (s : String) : Option Nat :=
  match readWord? s with
  | some n => if n ≤ 5 then some n else none
  | none =>
    match String.ofList (s.toList.map Char.toLower) with
    | "off" => some 0
    | "error" => some 1
    | "warn" => some 2
    | "info" => some 3
    | "debug" => some 4
    | "trace" => some 5
    | _ => none

/-- Reads a field of a span part: `name` or `name=value`. -/
def fieldOf (s : String) : String × Option String :=
  match s.splitOn "=" with
  | [name] => (name, none)
  | name :: rest => (name, some ("=".intercalate rest))
  | [] => (s, none)

/-- Reads the scope of a directive, before its `=`. -/
def scopeOf? (s : String) (rank : Nat) : Option Directive :=
  let target (t : String) : Option String := if t.isEmpty then none else some t
  match s.splitOn "[" with
  | [t] => some { target := target t, rank := rank }
  | [t, part] =>
    if !part.endsWith "]" then none
    else
      let inner := (part.dropEnd 1).toString
      match inner.splitOn "\x7b" with
      | [name] => some { target := target t, span := some name, rank := rank }
      | [name, fs] =>
        if !fs.endsWith "\x7d" then none
        else
          let fields := ((fs.dropEnd 1).toString.splitOn ",").filter (!·.isEmpty) |>.map fieldOf
          some { target := target t, span := some name, fields := fields, rank := rank }
      | _ => none
  | _ => none

/-- Reads one directive. -/
def directive? (s : String) : Option Directive :=
  match s.splitOn "=" with
  | [part] =>
    match rankOf? part with
    | some r => some { target := none, rank := r }
    | none => scopeOf? part 5
  | [part, level] =>
    if part.isEmpty then none
    else (if level.isEmpty then some 5 else rankOf? level).bind (scopeOf? part)
  | _ => none

/-- The directive texts of a filter text. -/
def pieces (s : String) : List String := (s.splitOn ",").filter (!·.isEmpty)

/-- Reads a filter text, refusing it if any directive is malformed. -/
def parse? (s : String) : Option LogFilter :=
  (pieces s).mapM directive? |>.map (⟨·⟩)

/-- The filter that keeps errors only. -/
def errorsOnly : LogFilter := ⟨[{ target := none, rank := 1 }]⟩

/-- Reads a filter text, skipping malformed directives; with none left, errors only. -/
def parseLossy (s : String) : LogFilter :=
  match (pieces s).filterMap directive? with
  | [] => errorsOnly
  | ds => ⟨ds⟩

/-- How specific a directive is for ordering: a longer path is more specific, and any path
more than none. -/
def specificity (d : Directive) : Nat :=
  match d.target with
  | some t => t.length + 1
  | none => 0

/-- The most verbose level the static directives keep for a module, if any of them applies. -/
def rankFor? (f : LogFilter) (target : String) : Option Nat :=
  let applying := f.directives.filter fun d => !d.isDynamic && d.covers target
  let best := applying.foldl (fun acc d =>
    match acc with
    | some a => if specificity d ≥ specificity a then some d else some a
    | none => some d) none
  best.map (·.rank)

/-- Whether the static directives keep an event or span of a module and level. -/
def keeps (f : LogFilter) (target : String) (level : Level) : Bool :=
  match f.rankFor? target with
  | some r => level.rank ≤ r
  | none => false

/-- Whether a span is shown: kept at the info level, or matched by a dynamic directive. -/
def showsSpan (f : LogFilter) (s : Span) : Bool :=
  f.keeps s.target .info || f.directives.any (·.matchesSpan s)

/-- An event with only the spans the filter shows, if the event itself is kept: by the static
directives, or inside a span matched by a dynamic directive that admits its level. -/
def apply (f : LogFilter) (e : LogEvent) : Option LogEvent :=
  let inScope := e.spans.any fun s => f.directives.any fun d => d.matchesSpan s && e.level.rank ≤ d.rank
  if f.keeps e.target e.level || inScope then some { e with spans := e.spans.filter f.showsSpan }
  else none

end LogFilter

end AccountRegistry
