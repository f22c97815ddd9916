import GrammarCheck.Template

/-! What can be wrong with a definition that is to be compiled. -/

namespace GrammarCheck

inductive CompileFault where
  | badReference (position max : Nat)
  | invalidRegex (e : Regex.Error)
  | template (e : TemplateError)
  | minExceedsMax (min max : Nat)
  | zeroMax
  | quantifierInGroup
  | unknownPhrase (name : String)
  | recursivePhrase (name : String)
  | unknownFeature (name : String)
  | tooManyTypes (name : String) (count : Nat)
  | nestedUnify
  | misplacedMarker
  | readingCount (action : ActionKind) (readings tokens : Nat)
  | severalTokens (action : ActionKind) (tokens : Nat)
  | unifyCount (unified elements : Nat)
  | missingTarget (action : ActionKind)
  deriving DecidableEq, Inhabited

def CompileFault.message : CompileFault → String
  | badReference position max =>
    s!"backreference to position {position} must point to an earlier position (1..={max})"
  | invalidRegex _ => "invalid regex"
  | template e => "invalid template: " ++ e.message
  | minExceedsMax min max => s!"min={min} exceeds max={max}"
  | zeroMax => "max must be greater than zero"
  | quantifierInGroup => "occurrence and skip attributes belong on the first token of an AND group"
  | unknownPhrase name => "unknown phrase " ++ name
  | recursivePhrase name => "phrase " ++ name ++ " is nested too deeply or refers to itself"
  | unknownFeature name => "unknown unification feature " ++ name
  | tooManyTypes name count => s!"feature {name} declares {count} types; at most 64 are supported"
  | nestedUnify => "unification groups cannot be nested"
  | misplacedMarker => "a pattern takes at most one marker, outside phrases"
  | readingCount action readings tokens =>
    action.name ++ s!" declares {readings} readings but the marker matches {tokens} tokens"
  | severalTokens action tokens =>
    action.name ++ s!" applies to a single token but the marker matches {tokens} tokens"
  | unifyCount unified elements =>
    s!"unify declares {unified} unified tokens but the marker has {elements} elements"
  | missingTarget action => action.name ++ " needs readings or a POS target"

structure CompileError where
  location : Location
  ruleId : String
  fault : CompileFault
  deriving DecidableEq, Inhabited

def CompileError.message (e : CompileError) : String :=
  e.location.render ++ ": rule " ++ e.ruleId ++ ": " ++ e.fault.message

end GrammarCheck
