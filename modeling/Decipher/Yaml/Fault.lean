import Decipher.Yaml.Cursor

/-!
# What can be wrong with a YAML text

A fault is a problem at a place and, for most problems, what was being read and
where that started.
-/

namespace Decipher

namespace Yaml

/-- What went wrong. -/
inductive Problem
  | cannotStartToken
  | noColon
  | noBlockEntry
  | noMappingKey
  | noMappingValue
  | noDirectiveName
  | oddDirectiveName
  | unknownDirective
  | noLineEnd
  | noVersionNumber
  | longVersionNumber
  | noVersionDot
  | noGap
  | noGapOrLineEnd
  | noExclamation
  | noTagUri
  | noUriOctet
  | badLeadOctet
  | badTrailOctet
  | noTagEnd
  | noNameChar
  | zeroIndentation
  | tabForIndentation
  | tabInIndentation
  | documentMark
  | endOfStream
  | unknownEscape
  | noHexDigit
  | badCodePoint
  | oddColon
  | noDocumentStart
  | duplicateVersion
  | incompatibleVersion
  | duplicateTagHandle
  | undefinedTagHandle
  | noNode
  | noDash
  | noKey
  | noCommaOrBracket
  | noCommaOrBrace
  deriving DecidableEq

def Problem.message : Problem → String
  | cannotStartToken => "found character that cannot start any token"
  | noColon => "could not find expected ':'"
  | noBlockEntry => "block sequence entries are not allowed in this context"
  | noMappingKey => "mapping keys are not allowed in this context"
  | noMappingValue => "mapping values are not allowed in this context"
  | noDirectiveName => "could not find expected directive name"
  | oddDirectiveName => "found unexpected non-alphabetical character"
  | unknownDirective => "found unknown directive name"
  | noLineEnd => "did not find expected comment or line break"
  | noVersionNumber => "did not find expected version number"
  | longVersionNumber => "found extremely long version number"
  | noVersionDot => "did not find expected digit or '.' character"
  | noGap => "did not find expected whitespace"
  | noGapOrLineEnd => "did not find expected whitespace or line break"
  | noExclamation => "did not find expected '!'"
  | noTagUri => "did not find expected tag URI"
  | noUriOctet => "did not find URI escaped octet"
  | badLeadOctet => "found an incorrect leading UTF-8 octet"
  | badTrailOctet => "found an incorrect trailing UTF-8 octet"
  | noTagEnd => "did not find the expected '>'"
  | noNameChar => "did not find expected alphabetic or numeric character"
  | zeroIndentation => "found an indentation indicator equal to 0"
  | tabForIndentation => "found a tab character where an indentation space is expected"
  | tabInIndentation => "found a tab character that violates indentation"
  | documentMark => "found unexpected document indicator"
  | endOfStream => "found unexpected end of stream"
  | unknownEscape => "found unknown escape character"
  | noHexDigit => "did not find expected hexadecimal number"
  | badCodePoint => "found invalid Unicode character escape code"
  | oddColon => "found unexpected ':'"
  | noDocumentStart => "did not find expected <document start>"
  | duplicateVersion => "found duplicate %YAML directive"
  | incompatibleVersion => "found incompatible YAML document"
  | duplicateTagHandle => "found duplicate %TAG directive"
  | undefinedTagHandle => "found undefined tag handle"
  | noNode => "did not find expected node content"
  | noDash => "did not find expected '-' indicator"
  | noKey => "did not find expected key"
  | noCommaOrBracket => "did not find expected ',' or ']'"
  | noCommaOrBrace => "did not find expected ',' or '\x7d'"

/-- What was being read. -/
inductive Context
  | nextToken
  | simpleKey
  | directive
  | versionDirective
  | tagDirective
  | tagDirectiveHandle
  | tagDirectiveHandleEnd
  | tagDirectiveUri
  | tag
  | tagUri
  | anchor
  | reference
  | blockScalar
  | quotedScalar
  | quotedEscape
  | plainScalar
  | node
  | blockNode
  | flowNode
  | blockSequence
  | blockMapping
  | flowSequence
  | flowMapping
  deriving DecidableEq

def Context.message : Context → String
  | nextToken => "while scanning for the next token"
  | simpleKey => "while scanning a simple key"
  | directive => "while scanning a directive"
  | versionDirective => "while scanning a %YAML directive"
  | tagDirective => "while scanning a %TAG directive"
  | tagDirectiveHandle => "while scanning a tag directive"
  | tagDirectiveHandleEnd => "while parsing a tag directive"
  | tagDirectiveUri => "while parsing a %TAG directive"
  | tag => "while scanning a tag"
  | tagUri => "while parsing a tag"
  | anchor => "while scanning an anchor"
  | reference => "while scanning an alias"
  | blockScalar => "while scanning a block scalar"
  | quotedScalar => "while scanning a quoted scalar"
  | quotedEscape => "while parsing a quoted scalar"
  | plainScalar => "while scanning a plain scalar"
  | node => "while parsing a node"
  | blockNode => "while parsing a block node"
  | flowNode => "while parsing a flow node"
  | blockSequence => "while parsing a block collection"
  | blockMapping => "while parsing a block mapping"
  | flowSequence => "while parsing a flow sequence"
  | flowMapping => "while parsing a flow mapping"

inductive Fault
  /-- A control character, at a number of bytes into the text. -/
  | controlCharacter (offset : Nat)
  /-- A problem that needs no context. -/
  | plain (problem : Problem) (mark : Mark)
  /-- A problem met while something else was read. -/
  | within (context : Context) (start : Mark) (problem : Problem) (mark : Mark)
  /-- A name that stands for no node. -/
  | unknownAnchor (mark : Mark)

/-- The place of a problem. -/
def Fault.mark? : Fault → Option Mark
  | plain _ mark => some mark
  | within _ _ _ mark => some mark
  | unknownAnchor mark => some mark
  | controlCharacter _ => none

/-- A fault in words.  The start of what was being read is named only if it is not
the place of the problem. -/
def Fault.message : Fault → String
  | controlCharacter offset =>
    let message := "control characters are not allowed"
    if offset = 0 then message else message ++ " at position " ++ toString offset
  | plain problem mark => mark.annotate problem.message
  | within context start problem mark =>
    let here := mark.annotate problem.message ++ ", " ++ context.message
    if start.line = mark.line ∧ start.column = mark.column then here else start.annotate here
  | unknownAnchor mark => mark.annotate "unknown anchor"

end Yaml

end Decipher
