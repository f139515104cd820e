import StepFlow.Value.Basic

namespace StepFlow

-- Names of operations, and names of other things under the name of their type.
structure Members where
  operations : List String
  things : List (String × List String)

namespace Members

def none : Members :=
  ⟨[], []⟩

def ofOperations (names : List String) : Members :=
  ⟨names, []⟩

instance : Append Members where
  append a b := ⟨a.operations ++ b.operations, a.things ++ b.things⟩

-- Going through items and finding them.
def container : List String :=
  ["__contains__", "__getitem__", "__iter__", "__len__"]

-- Storing items.
def stored : List String :=
  ["__delitem__", "__setitem__"]

-- Joining and repeating sequences.
def joined : List String :=
  ["__add__", "__mul__", "__rmul__"]

-- Texts with places to fill in.
def formatted : List String :=
  ["__getnewargs__", "__mod__", "__rmod__"]

-- Uniting two things to one.
def united : List String :=
  ["__or__", "__ror__"]

-- Arithmetic.
def number : List String :=
  ["__abs__", "__add__", "__bool__", "__ceil__", "__divmod__", "__float__", "__floor__",
    "__floordiv__", "__int__", "__mod__", "__mul__", "__neg__", "__pos__", "__pow__", "__radd__",
    "__rdivmod__", "__rfloordiv__", "__rmod__", "__rmul__", "__round__", "__rpow__", "__rsub__",
    "__rtruediv__", "__sub__", "__truediv__", "__trunc__", "as_integer_ratio", "conjugate"]

-- Arithmetic on the bits of integers.
def bits : List String :=
  ["__and__", "__getnewargs__", "__index__", "__invert__", "__lshift__", "__or__", "__rand__",
    "__rlshift__", "__ror__", "__rrshift__", "__rshift__", "__rxor__", "__xor__", "bit_count",
    "bit_length", "from_bytes", "to_bytes"]

-- What doubles can do beside.
def double : List String :=
  ["__getformat__", "__getnewargs__", "fromhex", "hex", "is_integer"]

-- What ratios can do beside.
def ratio : List String :=
  ["__complex__", "__copy__", "__deepcopy__", "from_decimal", "from_float", "limit_denominator"]

-- What texts and byte strings can do.
def characters : List String :=
  ["capitalize", "center", "count", "endswith", "expandtabs", "find", "index", "isalnum",
    "isalpha", "isascii", "isdigit", "islower", "isspace", "istitle", "isupper", "join", "ljust",
    "lower", "lstrip", "maketrans", "partition", "removeprefix", "removesuffix", "replace",
    "rfind", "rindex", "rjust", "rpartition", "rsplit", "rstrip", "split", "splitlines",
    "startswith", "strip", "swapcase", "title", "translate", "upper", "zfill"]

-- What texts can do beside.
def text : List String :=
  ["casefold", "encode", "format", "format_map", "isdecimal", "isidentifier", "isnumeric",
    "isprintable"]

-- Looking up in mappings.
def mapping : List String :=
  ["get", "items", "keys", "values"]

-- Changing mappings.
def changing : List String :=
  ["clear", "pop", "popitem", "setdefault", "update"]

-- What sets can do.
def set : List String :=
  ["__and__", "__iand__", "__ior__", "__isub__", "__ixor__", "__or__", "__rand__", "__ror__",
    "__rsub__", "__rxor__", "__sub__", "__xor__", "add", "clear", "copy", "difference",
    "difference_update", "discard", "intersection", "intersection_update", "isdisjoint",
    "issubset", "issuperset", "pop", "remove", "symmetric_difference",
    "symmetric_difference_update", "union", "update"]

-- What lists can do.
def list : List String :=
  ["__iadd__", "__imul__", "__reversed__", "append", "clear", "copy", "count", "extend", "index",
    "insert", "pop", "remove", "reverse", "sort"]

-- What paths can do.
def path : List String :=
  ["__bytes__", "__enter__", "__exit__", "__fspath__", "__rtruediv__", "__truediv__", "absolute",
    "as_posix", "as_uri", "chmod", "cwd", "exists", "expanduser", "glob", "group", "hardlink_to",
    "home", "is_absolute", "is_block_device", "is_char_device", "is_dir", "is_fifo", "is_file",
    "is_mount", "is_relative_to", "is_reserved", "is_socket", "is_symlink", "iterdir", "joinpath",
    "lchmod", "link_to", "lstat", "match", "mkdir", "open", "owner", "read_bytes", "read_text",
    "readlink", "relative_to", "rename", "replace", "resolve", "rglob", "rmdir", "samefile",
    "stat", "symlink_to", "touch", "unlink", "with_name", "with_stem", "with_suffix",
    "write_bytes", "write_text"]

-- What loggers can do.
def logger : List String :=
  ["addFilter", "addHandler", "callHandlers", "critical", "debug", "error", "exception", "fatal",
    "filter", "findCaller", "getChild", "getEffectiveLevel", "handle", "hasHandlers", "info",
    "isEnabledFor", "log", "makeRecord", "removeFilter", "removeHandler", "setLevel", "warn",
    "warning"]

-- What the members of an enumeration and their type share.
def enumeration : Members :=
  ⟨["__bool__", "__contains__", "__getattr__", "__getitem__", "__iter__", "__len__",
      "__reversed__"],
    [("mappingproxy", ["__members__"])]⟩

-- A type that leaves operations open.
def leftOpen (operations : List String) : Members :=
  ⟨"register" :: operations,
    [("frozenset", ["__abstractmethods__"]), ("tuple", ["__slots__"])]⟩

def record : Members :=
  ⟨[], [("dict", ["__dataclass_fields__"]), ("tuple", ["__match_args__"]),
    ("_DataclassParams", ["__dataclass_params__"])]⟩

-- What all types show of themselves.
def type : Members :=
  ⟨["__call__", "__instancecheck__", "__prepare__", "__subclasscheck__", "__subclasses__",
      "mro"] ++ united,
    [("mappingproxy", ["__dict__"]), ("tuple", ["__bases__", "__mro__"]),
      ("str", ["__module__", "__qualname__"]), ("NoneType", ["__text_signature__"]),
      ("int", ["__basicsize__", "__dictoffset__", "__flags__", "__itemsize__",
        "__weakrefoffset__"])]⟩

-- What types show that are written down as such.
def defined : Members :=
  ⟨[], [("dict", ["__annotations__"])]⟩

-- What types show whose instances can be referred to weakly.
def referred : Members :=
  ⟨[], [("getset_descriptor", ["__weakref__"])]⟩

-- What functions show of themselves.
def function : Members :=
  ⟨["__call__", "__get__"],
    [("dict", ["__annotations__", "__builtins__", "__dict__", "__globals__"]),
      ("code", ["__code__"]), ("str", ["__module__", "__qualname__"]),
      ("NoneType", ["__closure__", "__defaults__", "__kwdefaults__"])]⟩

-- What operations show of themselves that are not written down as functions, by their type.
def builtIn (typeName : String) : Members :=
  if typeName = "method-wrapper" then
    ⟨["__call__", "__objclass__"], [("str", ["__qualname__", "__text_signature__"])]⟩
  else
    ⟨["__call__"],
      [("str", ["__qualname__"]), ("NoneType", ["__module__", "__text_signature__"])]⟩

-- What a type with parameters shows of itself, beside what its type shows.
def synonym : Members :=
  ⟨["__call__", "__mro_entries__"] ++ united, []⟩

end Members

namespace NativeType

-- What an instance of a type cannot be used as: a key, or a sequence from its end.
def denied : NativeType → List String
  | .mapping | .mutableMapping => ["__hash__", "__reversed__"]
  | .readOnlyView | .checkRow | .checkReport => ["__hash__"]
  | _ => []

-- What a type has of its own.
def own : NativeType → Members
  | .ratio =>
    Members.leftOpen (Members.number ++ Members.ratio) ++
      ⟨[], [("property", ["denominator", "imag", "numerator", "real"])]⟩
  | .readOnlyView =>
    .ofOperations (Members.container ++ Members.mapping ++ ["__class_getitem__", "__ior__",
      "__reversed__", "copy"])
  | .path =>
    ⟨Members.path, [("tuple", ["__slots__"]), ("property", ["anchor", "drive", "name", "parent",
      "parents", "parts", "root", "stem", "suffix", "suffixes"])]⟩
  | .mapping => Members.leftOpen (Members.container ++ Members.mapping)
  | .mutableMapping =>
    Members.leftOpen (Members.container ++ Members.stored ++ Members.mapping ++ Members.changing)
  | .sequence => Members.leftOpen (Members.container ++ ["__reversed__", "count", "index"])
  | .iterable => Members.leftOpen ["__iter__"]
  | .callable => Members.leftOpen []
  | .enumeration => Members.enumeration
  | .stepKind =>
    Members.enumeration ++
      .ofOperations (Members.joined ++ Members.formatted ++ Members.characters ++ Members.text)
  | .error _ =>
    ⟨["__setstate__", "add_note", "with_traceback"],
      [("getset_descriptor", ["__cause__", "__context__", "__traceback__", "args"]),
        ("member_descriptor", ["__suppress_context__"])]⟩
  | .deck | .checkRow | .checkReport => Members.record
  | _ => .none

-- Whether the instances of a type can be referred to weakly.
def isReferred : NativeType → Bool
  | .registry | .deck | .checkRow | .checkReport | .error _ | .anything | .missing => true
  | _ => false

-- What a type shows of itself.
def members (t : NativeType) : Members :=
  ⟨[], [("NoneType", t.denied)]⟩ ++ t.own ++ Members.type ++
    (if t = .readOnlyView then .none else Members.defined) ++
    (if t.isReferred then Members.referred else .none)

end NativeType

-- What a value offers.
def Value.members : Value → Members
  | .none => .ofOperations ["__bool__"]
  | .bool _ | .int _ =>
    ⟨Members.number ++ Members.bits, [("int", ["denominator", "imag", "numerator", "real"])]⟩
  | .float _ | .nan _ => ⟨Members.number ++ Members.double, [("float", ["imag", "real"])]⟩
  | .ratio _ =>
    ⟨Members.number ++ Members.ratio,
      [("int", ["denominator", "imag", "numerator"]), ("Fraction", ["real"]),
        ("frozenset", ["__abstractmethods__"]), ("dict", ["__annotations__"]),
        ("tuple", ["__slots__"])]⟩
  | .str _ =>
    .ofOperations (Members.container ++ Members.joined ++ Members.formatted ++
      Members.characters ++ Members.text)
  | .kind _ =>
    ⟨Members.container ++ Members.joined ++ Members.formatted ++ Members.characters ++
        Members.text ++ ["__copy__", "__deepcopy__"],
      [("str", ["_name_", "_value_"]),
        ("dict", ["__annotations__", "__dict__"]), ("NoneType", ["__weakref__"])]⟩
  | .bytes _ =>
    .ofOperations (Members.container ++ Members.joined ++ Members.formatted ++
      Members.characters ++ ["__bytes__", "decode", "fromhex", "hex"])
  | .list _ =>
    ⟨Members.container ++ Members.stored ++ Members.joined ++ Members.list ++
        ["__class_getitem__"],
      [("NoneType", ["__hash__"])]⟩
  | .tuple _ =>
    .ofOperations (Members.container ++ Members.joined ++
      ["__class_getitem__", "__getnewargs__", "count", "index"])
  | .set _ =>
    ⟨["__class_getitem__", "__contains__", "__iter__", "__len__"] ++ Members.set,
      [("NoneType", ["__hash__"])]⟩
  | .dict _ =>
    ⟨Members.container ++ Members.stored ++ Members.united ++ Members.mapping ++
        Members.changing ++ ["__class_getitem__", "__ior__", "__reversed__", "copy", "fromkeys"],
      [("NoneType", ["__hash__"])]⟩
  | .view .. =>
    ⟨Members.container ++ Members.united ++ Members.mapping ++
        ["__class_getitem__", "__ior__", "__reversed__", "copy"],
      [("NoneType", ["__hash__"])]⟩
  | .generator _ =>
    ⟨["__del__", "send", "throw"],
      [("code", ["gi_code"]), ("frame", ["gi_frame"]), ("bool", ["gi_running", "gi_suspended"]),
        ("str", ["__qualname__"]), ("NoneType", ["gi_yieldfrom"])]⟩
  | .object "Logger" _ _ =>
    ⟨Members.logger,
      [("str", ["__doc__", "name"]), ("dict", ["__dict__"]), ("NoneType", ["__weakref__"]),
        ("bool", ["disabled", "propagate"]), ("list", ["filters", "handlers"]),
        ("int", ["level"]), ("Manager", ["manager"]), ("RootLogger", ["parent", "root"])]⟩
  | _ => .none

-- Operations under a name in underscores that stand behind no operator.
def Members.named : List String :=
  ["__bytes__", "__ceil__", "__class_getitem__", "__floor__", "__getformat__", "__getnewargs__",
    "__reversed__", "__round__", "__trunc__"]

-- The type of an operation that a value offers. One behind an operator wraps it, except for some of
-- containers.
def Value.operationType (v : Value) (name : String) : String :=
  let direct : List String :=
    match v with
    | .list _ => ["__getitem__"]
    | .set _ => ["__contains__"]
    | .dict _ => ["__contains__", "__getitem__"]
    | _ => []
  match v with
  | .ratio _ | .object .. | .record .. => "method"
  | v =>
    if v matches .kind _ && ["__copy__", "__deepcopy__"].contains name then "method"
    else if name.startsWith "__" && !(direct ++ Members.named).contains name then "method-wrapper"
    else "builtin_function_or_method"

end StepFlow
