import GrammarCheck.Bound
import GrammarCheck.Location
import GrammarCheck.Reading

/-! Rules as a rule file defines them: patterns still are text, phrases are still names, and references are positions
that nothing has checked. -/

namespace GrammarCheck

/-- A text to be compared with, or a pattern. -/
inductive Value where
  | literal (text : String)
  | regex (source : String)
  deriving DecidableEq, Inhabited

def Value.source : Value → String
  | literal text => text
  | regex source => source

/-- The token that an exception looks at, seen from the one that it guards. -/
inductive Scope where
  | current
  | next
  | previous
  deriving DecidableEq, Inhabited

/-- Conditions on one token. The text is the base form's if the condition is inflected. -/
structure ConditionDef where
  text : Option Value := none
  inflected : Bool := false
  tag : Option Value := none
  negateTag : Bool := false
  negate : Bool := false
  caseSensitive : Bool := false
  spaceBefore : Option Bool := none
  reference : Option Nat := none
  deriving DecidableEq, Inhabited

def ConditionDef.isEmpty (c : ConditionDef) : Bool :=
  c.text.isNone && c.tag.isNone && c.spaceBefore.isNone && c.reference.isNone

structure ExceptionDef where
  condition : ConditionDef
  scope : Scope
  deriving DecidableEq, Inhabited

structure TokenDef where
  condition : ConditionDef := {}
  exceptions : List ExceptionDef := []
  min : Nat := 1
  max : Bound := .upTo 1
  skip : Bound := .upTo 0
  location : Location
  deriving DecidableEq, Inhabited

def TokenDef.hasDefaultQuantifiers (t : TokenDef) : Bool :=
  t.min == 1 && t.max == .upTo 1 && t.skip == .upTo 0

/-- Conditions on the same token; the first one says how often it may occur. -/
structure TokenGroup where
  first : TokenDef
  others : List TokenDef
  deriving DecidableEq, Inhabited

inductive PatternItem where
  | tokens (group : TokenGroup)
  | phrase (name : String) (location : Location)
  | marker (items : List PatternItem) (location : Location)
  | unify (features : List String) (negate : Bool) (items : List PatternItem) (location : Location)
  deriving Inhabited

structure PatternDef where
  caseSensitive : Bool
  items : List PatternItem
  deriving Inhabited

/-- A named sequence of tokens with alternatives. -/
structure PhraseDef where
  name : String
  alternatives : List (List PatternItem)
  location : Location
  deriving Inhabited

structure FeatureDef where
  name : String
  types : List (String × ConditionDef)
  location : Location
  deriving DecidableEq, Inhabited

inductive ExampleDef where
  | incorrect (text : String) (correction : Option String)
  | correct (text : String)
  deriving DecidableEq, Inhabited

structure RuleDef where
  id : String
  subId : String
  description : String
  pattern : PatternDef
  message : String
  shortMessage : Option String
  suggestions : List String
  allowOverlap : Bool
  examples : List ExampleDef
  location : Location
  deriving Inhabited

inductive ActionKind where
  | replace
  | add
  | remove
  | filter
  | unify
  | immunize
  | ignoreSpelling
  deriving DecidableEq, Inhabited

def ActionKind.name : ActionKind → String
  | replace => "replace"
  | add => "add"
  | remove => "remove"
  | filter => "filter"
  | unify => "unify"
  | immunize => "immunize"
  | ignoreSpelling => "ignore_spelling"

structure ActionDef where
  kind : ActionKind
  tag : Option Value
  base : Option String
  tagReplacement : Option String
  location : Location
  deriving DecidableEq, Inhabited

inductive DisambiguationExample where
  | untouched (text : String)
  | ambiguous (text : String) (input output : List Reading)
  deriving DecidableEq, Inhabited

structure DisambiguationDef where
  id : String
  description : String
  pattern : PatternDef
  action : ActionDef
  readings : List Reading
  examples : List DisambiguationExample
  location : Location
  deriving Inhabited

structure RuleFile where
  features : List FeatureDef := []
  phrases : List PhraseDef := []
  rules : List RuleDef := []
  disambiguations : List DisambiguationDef := []
  deriving Inhabited

end GrammarCheck
