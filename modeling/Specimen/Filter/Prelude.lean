import Specimen.Filter.Parser

/-!
# The prelude of filter programs

The functions that every program may use and that are themselves written as programs.
-/

namespace Specimen

namespace Prelude

/-- The definitions, as a text. -/
def source : String := "
def empty: \x7b\x7d[] as $x | .;
def null: [][0];
def true: 0 == 0;
def false: 0 != 0;
def not: if . then false else true end;
def error: error(.);
def nan: 0 / 0;
def infinite: 1 / 0;

def select(f): if f then . else empty end;
def values: select(. != null);
def nulls: select(. == null);
def booleans: select(type == \"boolean\");
def numbers: select(type == \"number\");
def strings: select(type == \"string\");
def arrays: select(type == \"array\");
def objects: select(type == \"object\");
def iterables: select(. >= []);
def scalars: select(. < []);

def map(f): [.[] | f];
def map_values(f): .[] |= f;
def recurse(f): def rec: ., (f | rec); rec;
def recurse: recurse(.[]?);
def recurse(f; cond): recurse(f | select(cond));
def walk(f): def rec: (.[]? |= rec) | f; rec;
def while(cond; update): def rec: if cond then ., (update | rec) else empty end; rec;
def until(cond; update): def rec: if cond then . else update | rec end; rec;
def repeat(f): def rec: ., (f | rec); rec;

def range($n): range(0; $n; 1);
def range($from; $to): range($from; $to; 1);

def first: .[0];
def last: .[-1];
def nth(n): .[n];
def nth(n; f): last(limit(n + 1; f));
def isempty(g): first((g | false), true);
def any(g; cond): isempty(first(g | cond | select(.))) | not;
def all(g; cond): isempty(first(g | cond | select(. | not)));
def any(f): any(.[]; f);
def all(f): all(.[]; f);
def any: any(.);
def all: all(.);
def add(f): reduce f as $x (null; . + $x);
def add: add(.[]);

def keys: keys_unsorted | sort;
def to_entries: [keys_unsorted[] as $k | \x7bkey: $k, value: .[$k]\x7d];
def from_entries: map(\x7b(.key): .value\x7d) | add + \x7b\x7d;
def with_entries(f): to_entries | map(f) | from_entries;
def in(xs): . as $x | xs | has($x);
def inside(xs): . as $x | xs | contains($x);
def index($i): indices($i)[0];
def rindex($i): indices($i)[-1];
def split($sep):
  if type == \"string\" and ($sep | type) == \"string\" then . / $sep
  else error(\"split input and separator must be strings\") end;
def getpath($path): reduce $path[] as $x (.; .[$x]);
def paths: path_values | .[0];
def paths(f): path_values | select(.[1] | f) | .[0];
def del(f): f |= empty;
def transpose: [range(0; map(length) | max // 0) as $i | [.[][$i]]];

def flatten: [recurse(arrays | .[]) | select(type != \"array\")];
def flatten($depth):
  if $depth > 0 then map(if type == \"array\" then flatten($depth - 1) else [.] end) | add
  else . end;
def unique_by(f): [group_by(f)[] | .[0]];
def unique: unique_by(.);
def min: min_by(.);
def max: max_by(.);

def tostring: if type == \"string\" then . else tojson end;
def tonumber: if type == \"number\" then . else fromjson end;
def @text: tostring;
def @json: tojson;
def join($sep):
  [.[0:][] | tostring]
  | reduce .[1:][] as $x (if length == 0 then \"\" else .[0] end; . + $sep + $x);
def abs: if type == \"number\" and . < 0 then -. else . end;
def toarray: if type == \"array\" then . else [.] end;
"

/-- The definitions. -/
def definitions : List Definition := (Term.parseDefinitions source).getD []

/-- The definition of a function by its name and how many arguments it takes. -/
def find? (name : String) (arity : Nat) : Option Definition :=
  definitions.find? fun d => d.name == name && d.params.length == arity

end Prelude

end Specimen
