/-! Places in a YAML text, and what can be wrong with the text there. -/
namespace Scriptlet.Yaml

structure Place where
  line : Nat := 0
  column : Nat := 0
  index : Nat := 0
deriving DecidableEq, Repr

inductive Cause
  | invalidLead
  | incompleteSequence
  | invalidTrail
  | overlongSequence
  | invalidCharacter
  | incompleteUnit
  | incompletePair
  | loneHighSurrogate
  | loneLowSurrogate
  | controlCharacter
  | unreadable (reason : String)
  | noToken
  | unsupported
  | missingDirectiveName
  | invalidDirectiveName
  | unknownDirective
  | missingVersion
  | longVersion
  | missingVersionPoint
  | repeatedVersion
  | otherVersion
  | missingColon
  | tooDeep (limit : Nat)
  | misplacedEntry
  | misplacedKey
  | misplacedValue
  | tabInPlain
  | tabInBlock
  | zeroIndentation
  | missingLineBreak
  | markerInQuotes
  | endInQuotes
  | unknownEscape
  | missingHexDigit
  | invalidEscapeCode
  | missingContent
  | missingKey
  | missingDash
  | missingSequenceEnd
  | missingMappingEnd
  | missingDocumentStart
  | unmergeable
  | invalidBase64
deriving DecidableEq, Repr

namespace Cause

def message : Cause → String
  | invalidLead => "invalid leading UTF-8 octet"
  | incompleteSequence => "incomplete UTF-8 octet sequence"
  | invalidTrail => "invalid trailing UTF-8 octet"
  | overlongSequence => "invalid length of a UTF-8 sequence"
  | invalidCharacter => "invalid Unicode character"
  | incompleteUnit => "incomplete UTF-16 character"
  | incompletePair => "incomplete UTF-16 surrogate pair"
  | loneHighSurrogate => "expected low surrogate area"
  | loneLowSurrogate => "unexpected low surrogate area"
  | controlCharacter => "control characters are not allowed"
  | unreadable reason => "input error: " ++ reason
  | noToken => "found character that cannot start any token"
  | unsupported => "found an anchor, an alias or a tag"
  | missingDirectiveName => "could not find expected directive name"
  | invalidDirectiveName => "found unexpected non-alphabetical character"
  | unknownDirective => "found unknown directive name"
  | missingVersion => "did not find expected version number"
  | longVersion => "found extremely long version number"
  | missingVersionPoint => "did not find expected digit or '.' character"
  | repeatedVersion => "found duplicate %YAML directive"
  | otherVersion => "found incompatible YAML document"
  | missingColon => "could not find expected ':'"
  | tooDeep limit => s!"exceeded max depth of {limit}"
  | misplacedEntry => "block sequence entries are not allowed in this context"
  | misplacedKey => "mapping keys are not allowed in this context"
  | misplacedValue => "mapping values are not allowed in this context"
  | tabInPlain => "found a tab character that violates indentation"
  | tabInBlock => "found a tab character where an indentation space is expected"
  | zeroIndentation => "found an indentation indicator equal to 0"
  | missingLineBreak => "did not find expected comment or line break"
  | markerInQuotes => "found unexpected document indicator"
  | endInQuotes => "found unexpected end of stream"
  | unknownEscape => "found unknown escape character"
  | missingHexDigit => "did not find expected hexdecimal number"
  | invalidEscapeCode => "found invalid Unicode character escape code"
  | missingContent => "did not find expected node content"
  | missingKey => "did not find expected key"
  | missingDash => "did not find expected '-' indicator"
  | missingSequenceEnd => "did not find expected ',' or ']'"
  | missingMappingEnd => "did not find expected ',' or '\x7d'"
  | missingDocumentStart => "did not find expected <document start>"
  | unmergeable => "map merge requires map or sequence of maps as the value"
  | invalidBase64 => "!!binary value contains invalid base64 data"

end Cause

/-- A cause with the line that is named in its message; 0 names none. -/
structure Fault where
  cause : Cause
  line : Nat := 0
deriving DecidableEq, Repr

namespace Fault

/-- A fault in the characters: it is blamed on the line where the faulty construct begins, unless that
is the first. -/
def inText (cause : Cause) (start place : Place) : Fault :=
  if start.line ≠ 0 then ⟨cause, start.line + 1⟩
  else if place.line ≠ 0 then ⟨cause, place.line + 1⟩
  else ⟨cause, 0⟩

/-- A fault in the order of tokens. Here the line is named as counted from zero. -/
def inOrder (cause : Cause) (start place : Place) : Fault :=
  if start.line ≠ 0 then ⟨cause, start.line⟩ else ⟨cause, place.line⟩

def message (fault : Fault) : String :=
  "yaml: " ++ (if fault.line = 0 then "" else s!"line {fault.line}: ") ++ fault.cause.message

end Fault

end Scriptlet.Yaml
