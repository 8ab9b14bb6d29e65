import Fixtures.TypeRef.Parser

/-!
# `Fixtures.Library`: the types that need no description

Fixed tables of the class library that generated sources are written against: the boxed scalars,
value types with a natural default, the containers with their empty instances, and the short
names that mean a library type without an import.
-/

set_option autoImplicit false

namespace Fixtures.Library

/-- The qualified name of the text type. -/
def stringName : String := "java.lang.String"

/-- The qualified name of the UUID type. -/
def uuidName : String := "java.util.UUID"

/-- Boxed scalars and what they box. -/
def boxedScalars : List (String × Primitive) := [
    ("java.lang.Boolean", .boolean), ("java.lang.Byte", .byte), ("java.lang.Short", .short),
    ("java.lang.Integer", .int), ("java.lang.Long", .long), ("java.lang.Float", .float),
    ("java.lang.Double", .double), ("java.lang.Character", .char)]

/-- Value types and the expression of their default. -/
def valueTypes : List (String × String) := [
    ("java.math.BigDecimal", "java.math.BigDecimal.ZERO"),
    ("java.math.BigInteger", "java.math.BigInteger.ZERO"),
    ("java.time.Instant", "java.time.Instant.EPOCH"),
    ("java.time.LocalDate", "java.time.LocalDate.of(2000, 1, 1)"),
    ("java.time.LocalDateTime", "java.time.LocalDateTime.of(2000, 1, 1, 0, 0)"),
    ("java.time.Duration", "java.time.Duration.ZERO")]

/-- The kinds of containers. -/
inductive Container where
  | list | linkedList | set | linkedSet | sortedSet | map | linkedMap | sortedMap
  | concurrentMap | queue | deque | optional
deriving DecidableEq

/-- The expression of an empty container. -/
def Container.emptyExpression : Container → String
  | list => "new java.util.ArrayList<>()"
  | linkedList => "new java.util.LinkedList<>()"
  | set => "new java.util.HashSet<>()"
  | linkedSet => "new java.util.LinkedHashSet<>()"
  | sortedSet => "new java.util.TreeSet<>()"
  | map => "new java.util.HashMap<>()"
  | linkedMap => "new java.util.LinkedHashMap<>()"
  | sortedMap => "new java.util.TreeMap<>()"
  | concurrentMap => "new java.util.concurrent.ConcurrentHashMap<>()"
  | queue => "new java.util.PriorityQueue<>()"
  | deque => "new java.util.ArrayDeque<>()"
  | optional => "java.util.Optional.empty()"

/-- Container types by their kind. -/
def containers : List (String × Container) := [
    ("java.lang.Iterable", .list), ("java.util.Collection", .list), ("java.util.List", .list),
    ("java.util.ArrayList", .list), ("java.util.LinkedList", .linkedList),
    ("java.util.Set", .set), ("java.util.HashSet", .set),
    ("java.util.LinkedHashSet", .linkedSet), ("java.util.SortedSet", .sortedSet),
    ("java.util.NavigableSet", .sortedSet), ("java.util.TreeSet", .sortedSet),
    ("java.util.Map", .map), ("java.util.HashMap", .map),
    ("java.util.LinkedHashMap", .linkedMap), ("java.util.SortedMap", .sortedMap),
    ("java.util.NavigableMap", .sortedMap), ("java.util.TreeMap", .sortedMap),
    ("java.util.concurrent.ConcurrentMap", .concurrentMap),
    ("java.util.concurrent.ConcurrentHashMap", .concurrentMap), ("java.util.Queue", .queue),
    ("java.util.PriorityQueue", .queue), ("java.util.Deque", .deque),
    ("java.util.ArrayDeque", .deque), ("java.util.Optional", .optional)]

/-- Library types whose short names need no import. -/
def implicitImports : List String := [
    "java.lang.Object", "java.lang.String", "java.lang.Boolean", "java.lang.Byte",
    "java.lang.Short", "java.lang.Integer", "java.lang.Long", "java.lang.Float",
    "java.lang.Double", "java.lang.Character", "java.lang.Number", "java.lang.CharSequence",
    "java.lang.Comparable", "java.lang.Iterable", "java.util.UUID", "java.util.Collection",
    "java.util.List", "java.util.ArrayList", "java.util.LinkedList", "java.util.Set",
    "java.util.HashSet", "java.util.LinkedHashSet", "java.util.SortedSet",
    "java.util.NavigableSet", "java.util.TreeSet", "java.util.Map", "java.util.HashMap",
    "java.util.LinkedHashMap", "java.util.SortedMap", "java.util.NavigableMap",
    "java.util.TreeMap", "java.util.Queue", "java.util.PriorityQueue", "java.util.Deque",
    "java.util.ArrayDeque", "java.util.Optional", "java.math.BigDecimal", "java.math.BigInteger",
    "java.time.Instant", "java.time.LocalDate", "java.time.LocalDateTime", "java.time.Duration"]

/-! ### Parts of a qualified name -/

/-- The characters after the last dot. -/
def simpleChars (name : List Char) : List Char :=
  (name.reverse.takeWhile (· != '.')).reverse

/-- The characters before the last dot; none without a dot. -/
def packageChars (name : List Char) : List Char :=
  ((name.reverse.dropWhile (· != '.')).drop 1).reverse

/-- The part of a qualified name after the last dot. -/
def simpleName (name : String) : String :=
  String.ofList (simpleChars name.toList)

/-- The part of a qualified name before the last dot; empty without a dot. -/
def packageName (name : String) : String :=
  String.ofList (packageChars name.toList)

/-! ### Lookups -/

/-- The scalar that a type boxes. -/
def boxed? (name : String) : Option Primitive := boxedScalars.lookup name

/-- The default of a value type. -/
def value? (name : String) : Option String := valueTypes.lookup name

/-- The kind of a container type. -/
def container? (name : String) : Option Container := containers.lookup name

/-- The library type that a short name means without an import. -/
def implicit? (short : String) : Option String :=
  implicitImports.find? fun name => simpleName name == short

/-- Whether a qualified name is in one of the tables. -/
def contains (name : String) : Bool :=
  implicitImports.contains name || (boxed? name).isSome || (value? name).isSome
    || (container? name).isSome

end Fixtures.Library
