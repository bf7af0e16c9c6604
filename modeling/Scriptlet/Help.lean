import Scriptlet.Text.Quoted

/-! The built-in reference: a summary of the commands and a text for each topic. A topic is asked for
by its name or by any beginning that no other topic has. -/
namespace Scriptlet.Help

def version : String := "v0.1"

structure Topic where
  name : String
  content : String

def page (rows : List String) : String :=
  "\n".intercalate rows

def syntaxTopic : Topic where
  name := "syntax"
  content := page
    ["SYNTAX",
     "",
     "  Statements end with ';'.",
     "",
     "    print <expr>;          write the value and a newline",
     "    let <name> = <expr>;   bind a name in the current scope",
     "    let <name>;            bind to nil",
     "    <name> = <expr>;       rebind an existing name",
     "    <expr>;                evaluate (the REPL echoes the value)",
     "    \x7b ... \x7d                run statements in a new scope",
     "",
     "  Comments: '#' to end of line, '/* ... */' block comments (not nested).",
     "  Strings: \"single line\" or \x60multi",
     "  line\x60. There are no escape sequences.",
     "",
     "  Reserved words: and class else false function for if nil or print",
     "  return super taco this true let while"]

def typesTopic : Topic where
  name := "types"
  content := page
    ["TYPES",
     "",
     "  Integer   64-bit signed, wraps on overflow     42",
     "  Float     64-bit IEEE 754                      3.14",
     "  String    UTF-8 text                           \"taco\"",
     "  Boolean                                        true false",
     "  Nil                                            nil",
     "",
     "  Kinds never convert implicitly: 1 + 1.0 is an error.",
     "  Only nil and false are falsy; 0 and \"\" are truthy.",
     "  Floats print in shortest form, so 2.0 prints as 2."]

def operatorsTopic : Topic where
  name := "operators"
  content := page
    ["OPERATORS (lowest to highest precedence)",
     "",
     "  =              assignment, right-associative",
     "  == !=          same-kind Boolean, Integer, Float or String",
     "  < <= > >=      two Integers or two Floats",
     "  + -            + also concatenates two Strings",
     "  * /            integer division truncates; dividing by zero is an error",
     "  ! -            unary not, unary minus",
     "",
     "  Both operands are always evaluated, left first. nil == nil is an error."]

def scopingTopic : Topic where
  name := "scoping"
  content := page
    ["SCOPING",
     "",
     "  let binds in the current scope, replacing an earlier binding there and",
     "  shadowing outer ones. A block \x7b ... \x7d opens a child scope that is",
     "  discarded when the block ends. Assignment and lookup search outward",
     "  from the current scope; a name found nowhere is an error:",
     "",
     "    let a = 1;",
     "    \x7b let a = 2; a = 3; print a; \x7d   # 3",
     "    print a;                         # 1"]

def diagnosticsTopic : Topic where
  name := "diagnostics"
  content := page
    ["DIAGNOSTICS",
     "",
     "  Lexical and syntax errors:",
     "    [line N] Error: <message>",
     "    [line N] Error at end: <message>",
     "    [line N] Error at '<lexeme>': <message>",
     "",
     "  Runtime errors:",
     "    [Line N] Error: <message>",
     "",
     "  --json prints one JSON object per diagnostic:",
     "    \x7b\"code\":\"E_PARSE\",\"message\":\"Expect expression.\",\"line\":1,\"where\":\"at end\"\x7d",
     "",
     "  Codes: E_LEX E_PARSE E_UNDEFINED E_TYPE E_DIV_ZERO E_INTERNAL E_IO E_CONFIG",
     "",
     "  Exit codes: 0 ok, 1 I/O error, 64 usage, 65 lex/syntax error, 70 runtime error."]

def replTopic : Topic where
  name := "repl"
  content := page
    ["REPL",
     "",
     "  Enter statements at the prompt. Expression statements echo their value.",
     "  When the input is unfinished (a missing ';', an open block, string or",
     "  comment) the continuation prompt asks for more; an empty line submits.",
     "",
     "    :help     show this reference",
     "    :env      list global bindings",
     "    :check    check statements against the current bindings",
     "    :reset    drop all global bindings",
     "    :quit     leave (Ctrl-D also works)",
     "",
     "  Errors are reported and the session continues. History is kept in the",
     "  history_file set in .taco.yaml or ~/.taco/config.yaml."]

def examplesTopic : Topic where
  name := "examples"
  content := page
    ["EXAMPLES",
     "",
     "  print 1 + 2 * 3;              # 7",
     "  print (1 + 2) * 3;            # 9",
     "  let name = \"taco\";",
     "  print \"hello \" + name;        # hello taco",
     "  print 7 / 2;                  # 3",
     "  print 7.0 / 2.0;              # 3.5",
     "  print !nil;                   # true",
     "  let n = 1;",
     "  \x7b let n = n + 1; print n; \x7d   # 2",
     "  print n;                      # 1"]

def topics : List Topic :=
  [syntaxTopic, typesTopic, operatorsTopic, scopingTopic, diagnosticsTopic, replTopic, examplesTopic]

def topicNames : List String :=
  topics.map (·.name)

def listing (names : List String) : String :=
  ", ".intercalate names

def overview : String := page
  ["taco " ++ version ++ " - a small tree-walking language",
   "",
   "USAGE",
   "  taco                      start the REPL",
   "  taco <file>               run a file",
   "  taco run <file|->         run a file (or stdin)",
   "  taco check <file>         parse and check names without running",
   "  taco fmt <file>           print canonical source (--write to rewrite)",
   "  taco tokens <file>        dump the token stream",
   "  taco ast <file>           dump the syntax tree",
   "  taco trace <file.jsonl>   summarize a trace written by run --trace",
   "  taco config [--init]      print the effective configuration, or write",
   "                            a default .taco.yaml",
   "  taco help [topic]         show this text or a topic",
   "",
   "TOPICS",
   "  " ++ listing topicNames,
   "",
   "  Topics match by unique prefix: taco help op",
   ""]

inductive Mismatch
  | unknown (name : ByteString)
  | ambiguous (name : ByteString) (candidates : List String)

def Mismatch.message : Mismatch → String
  | unknown name =>
    "unknown help topic " ++ name.quote ++ "; topics: " ++ listing topicNames
  | ambiguous name candidates =>
    "ambiguous help topic " ++ name.quote ++ ": matches " ++ listing candidates

def Topic.isCalled (name : ByteString) (topic : Topic) : Bool :=
  name = topic.name

def Topic.beginsWith (name : ByteString) (topic : Topic) : Bool :=
  !name.isEmpty && name.pieces.isPrefixOf (Text.piecesOfText topic.name)

/-- The topic of exactly that name, or else the only one whose name begins so. -/
def find (name : ByteString) : Except Mismatch Topic :=
  match topics.find? (Topic.isCalled name) with
  | some topic => .ok topic
  | none =>
    match topics.filter (Topic.beginsWith name) with
    | [] => .error (.unknown name)
    | [topic] => .ok topic
    | several => .error (.ambiguous name ((several.map (·.name)).mergeSort (· ≤ ·)))

end Scriptlet.Help
