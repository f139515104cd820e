import StepFlow.Native

namespace StepFlow

def linesOf (texts : List String) : String :=
  String.intercalate "\n" texts

def NativeType.doc? : NativeType → Option String
  | .registry => some "Registry that maps normalized step names to step callables."
  | .stepKind => some "The three step contracts."
  | .deck => some "Parsed pipeline deck: raw input arguments plus ordered step references."
  | .checkRow => some "CheckRow(name: 'str', ok: 'bool', detail: 'str')"
  | .checkReport => some "SelfCheckReport(rows: 'list[CheckRow]')"
  | .error .pipeline => some "Base class for every error raised by envpipe."
  | .error .contract => some "Raised when a step breaks its kind's return contract."
  | .error .argumentShape =>
    some "Raised when run_pipeline receives arguments or steps of the wrong shape."
  | .error .declaration => some "Raised when a step declaration is malformed."
  | .error .deck => some "Raised when a pipeline deck is invalid or cannot be resolved."
  | .ratio =>
    some (linesOf
      ["This class implements rational numbers.", "",
       "    In the two-argument form of the constructor, Fraction(8, 6) will",
       "    produce a rational number equivalent to 4/3. Both arguments must",
       "    be Rational. The numerator defaults to 0 and the denominator",
       "    defaults to 1 so that Fraction(3) == 3 and Fraction() == 0.", "",
       "    Fractions can also be constructed from:", "",
       "      - numeric strings similar to those accepted by the",
       "        float constructor (for example, '-2.3' or '1e10')", "",
       "      - strings of the form '123/456'", "", "      - float and Decimal instances", "",
       "      - other Rational instances (including integers)", "", "    "])
  | .path =>
    some (linesOf
      ["PurePath subclass that can make system calls.", "",
       "    Path represents a filesystem path but unlike PurePath, also offers",
       "    methods to do system calls on path objects. Depending on your system,",
       "    instantiating a Path will return either a PosixPath or a WindowsPath",
       "    object. You can also instantiate a PosixPath or WindowsPath directly,",
       "    but cannot instantiate a WindowsPath on a POSIX system or vice versa.", "    "])
  | .mapping =>
    some (linesOf
      ["A Mapping is a generic container for associating key/value", "    pairs.", "",
       "    This class provides concrete generic implementations of all",
       "    methods except for __getitem__, __iter__, and __len__.", "    "])
  | .mutableMapping =>
    some (linesOf
      ["A MutableMapping is a generic container for associating", "    key/value pairs.", "",
       "    This class provides concrete generic implementations of all",
       "    methods except for __getitem__, __setitem__, __delitem__,",
       "    __iter__, and __len__.", "    "])
  | .sequence =>
    some (linesOf
      ["All the operations on a read-only sequence.", "",
       "    Concrete subclasses must override __new__ or __init__,",
       "    __getitem__, and __len__.", "    "])
  | .anything =>
    some (linesOf
      ["Special type indicating an unconstrained type.", "",
       "    - Any is compatible with every type.", "    - Any assumed to have all methods.",
       "    - All values assumed to be instances of Any.", "",
       "    Note that all the above statements are true from the point of view of",
       "    static type checkers. At runtime, Any should not be used with instance",
       "    checks.", "    "])
  | .enumeration =>
    some (linesOf
      ["", "    Create a collection of name/value pairs.", "", "    Example enumeration:", "",
       "    >>> class Color(Enum):", "    ...     RED = 1", "    ...     BLUE = 2",
       "    ...     GREEN = 3", "", "    Access them by:", "", "    - attribute access::", "",
       "    >>> Color.RED", "    <Color.RED: 1>", "", "    - value lookup:", "",
       "    >>> Color(1)", "    <Color.RED: 1>", "", "    - name lookup:", "",
       "    >>> Color['RED']", "    <Color.RED: 1>", "",
       "    Enumerations can be iterated over, and know how many members they have:", "",
       "    >>> len(Color)", "    3", "", "    >>> list(Color)",
       "    [<Color.RED: 1>, <Color.BLUE: 2>, <Color.GREEN: 3>]", "",
       "    Methods can be added to enumerations, and members can have their own",
       "    attributes -- see the documentation for details.", "    "])
  | .missing => some "Marker object for Signature.empty and Parameter.empty."
  | _ => none

def TypeSynonym.doc? (s : TypeSynonym) : Option String :=
  match s with
  | .genericMapping => some "A generic version of collections.abc.Mapping."
  | .genericSequence => some "A generic version of collections.abc.Sequence."
  | s => s.origin.doc?

def Native.doc? : Native → Option String
  | .isKeyword _ => some "x.__contains__(y) <==> y in x."
  | .yamlLoad =>
    some (linesOf
      ["", "    Parse the first YAML document in a stream",
       "    and produce the corresponding Python object.", "",
       "    Resolve only basic YAML tags. This is known",
       "    to be safe for untrusted input.", "    "])
  | .invoke => some "Call self as a function."
  | .ofGenerator .itself => some "Implement iter(self)."
  | .ofGenerator .next => some "Implement next(self)."
  | .ofGenerator .close => some "close() -> raise GeneratorExit inside generator."
  | .runPipeline =>
    some (linesOf
      ["Run ``steps`` against the raw positional ``args``.", "",
       "    The first step is applied to ``args`` and must produce the initial",
       "    environment; every following step is folded over the environment in",
       "    order. Returns whatever the last step returns.", "    "])
  | .compose =>
    some (linesOf
      ["Bundle ``steps`` into one reusable callable taking the raw arguments.", "",
       "    ``compose(load, bump)`` can be shared by several pipelines and extended",
       "    with ``compose(*base.steps, report)``.", "    "])
  | .define .input =>
    some (linesOf
      ["Build an input step: ``f(*args) -> Environment``.", "",
       "    ``params`` is the exact positional parameter list of the produced",
       "    callable; a trailing ``\"*rest\"`` entry collects any extra arguments.",
       "    The mapping returned by ``body`` becomes the initial environment as is.", "    "])
  | .define .intermediate =>
    some (linesOf
      ["Build an intermediate step: ``f(env) -> env merged with body's result``.", "",
       "    Each declared name is looked up in the incoming environment; a missing",
       "    key binds to the body's default for that parameter, or ``None``.", "    "])
  | .define .output => some "Build an output step: ``f(env) -> body's result``, unvalidated."
  | .decorate .input => some "Decorator form of :func:`define_input_step`."
  | .decorate .intermediate => some "Decorator form of :func:`define_intermediate_step`."
  | .decorate .output => some "Decorator form of :func:`define_output_step`."
  | .parseParams => some "Split declared params into fixed names and an optional variadic name."
  | .bodyDefaults =>
    some "Validate that body can take the declared params; return positional defaults."
  | .readDeclaration => some "Read a step declaration (name, params) off a plain function."
  | .displayName => some "Best-effort display name for any step callable."
  | .partialEnv =>
    some (linesOf
      ["Build a partial environment from ``(name, value)`` pairs or a mapping.", "",
       "    Later pairs win when a name repeats.", "    "])
  | .keywordEnv => some "``env(x=1, y=2) -> \x7b\"x\": 1, \"y\": 2\x7d``"
  | .scopeEnv =>
    some (linesOf
      ["Pick ``names`` out of a namespace, usually ``locals()``.", "",
       "    ``env_from(locals(), \"x\", \"y\") -> \x7b\"x\": x, \"y\": y\x7d``", "    "])
  | .asMapping => some "Require mapping value."
  | .asList => some "Require an explicit list/tuple (strings and other iterables are rejected)."
  | .required => some "Require mapping key existence."
  | .ensureIdentifier => some "Validate that value can be bound as a Python local name."
  | .ensureUnique => some "Reject repeated names."
  | .parseSteps => some "Parse and normalize deck step references."
  | .parseArgs => some "Parse the raw positional arguments handed to the input step."
  | .parseDeck => some "Validate a deck payload and return its typed form."
  | .loadDeck => some "Load YAML deck from file."
  | .resolveSteps => some "Turn the deck's step references into callables."
  | .runDeckData =>
    some (linesOf
      ["Run a pipeline from an in-memory deck payload.", "",
       "    ``args`` replaces the deck's own ``args`` when given.", "    "])
  | .runDeck => some "Load a YAML deck and run its pipeline."
  | .createRegistry => some "Build a registry from a name -> step mapping."
  | .defaultRegistry => some "Registry holding the built-in steps."
  | .resolveRef => some "Resolve a registered name or a ``module:attribute`` import reference."
  | .buildParser => some "Create CLI parser."
  | .main => some "CLI entrypoint."
  | .reduce =>
    some (linesOf
      ["reduce(function, iterable[, initial]) -> value", "",
       "Apply a function of two arguments cumulatively to the items of a sequence",
       "or iterable, from left to right, so as to reduce the iterable to a single",
       "value.  For example, reduce(lambda x, y: x+y, [1, 2, 3, 4, 5]) calculates",
       "((((1+2)+3)+4)+5).  If initial is present, it is placed before the items",
       "of the iterable in the calculation, and serves as a default when the",
       "iterable is empty."])
  | .dataclass =>
    some (linesOf
      ["Add dunder methods based on the fields defined in the class.", "",
       "    Examines PEP 526 __annotations__ to determine fields.", "",
       "    If init is true, an __init__() method is added to the class. If repr",
       "    is true, a __repr__() method is added. If order is true, rich",
       "    comparison dunder methods are added. If unsafe_hash is true, a",
       "    __hash__() method is added. If frozen is true, fields may not be",
       "    assigned to after instance creation. If match_args is true, the",
       "    __match_args__ tuple is added. If kw_only is true, then by default",
       "    all fields are keyword-only. If slots is true, a new class with a",
       "    __slots__ attribute is returned.", "    "])
  | .field =>
    some (linesOf
      ["Return an object to identify dataclass fields.", "",
       "    default is the default value of the field.  default_factory is a",
       "    0-argument function called to initialize a field's value.  If init",
       "    is true, the field will be a parameter to the class's __init__()",
       "    function.  If repr is true, the field will be included in the",
       "    object's repr().  If hash is true, the field will be included in the",
       "    object's hash().  If compare is true, the field will be used in",
       "    comparison functions.  metadata, if specified, must be a mapping",
       "    which is stored but not otherwise examined by dataclass.  If kw_only",
       "    is true, the field will become a keyword-only parameter to", "    __init__().", "",
       "    It is an error to specify both default and default_factory.", "    "])
  | .type t => t.doc?
  | .synonym s => s.doc?
  | _ => none

end StepFlow
