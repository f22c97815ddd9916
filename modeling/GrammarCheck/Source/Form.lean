import GrammarCheck.Definition

/-! The forms that a rule file is written in, with the places where they start. Whether a form makes sense where it
stands is decided afterwards. -/

namespace GrammarCheck.Source

inductive Operator where
  | equal
  | notEqual
  | like
  | notLike
  deriving DecidableEq, Inhabited

namespace Operator

def symbol : Operator → String
  | equal => "="
  | notEqual => "!="
  | like => "~"
  | notLike => "!~"

def isNegated : Operator → Bool
  | equal => false
  | notEqual => true
  | like => false
  | notLike => true

/-- The operators with a tilde take a pattern. -/
def value : Operator → String → Value
  | equal, text => .literal text
  | notEqual, text => .literal text
  | like, source => .regex source
  | notLike, source => .regex source

end Operator

inductive Key where
  | text
  | base
  | tag
  | min
  | max
  | skip
  | ref
  | space
  deriving DecidableEq, Inhabited

inductive Attribute where
  | exception (scope : Scope) (conditions : List Attribute) (location : Location)
  | setting (key : Key) (op : Operator) (value : String) (location : Location)
  | negation (location : Location)
  | caseFlag (location : Location)
  | bareText (text : String) (location : Location)
  deriving Inhabited

def Attribute.location : Attribute → Location
  | exception _ _ place => place
  | setting _ _ _ place => place
  | negation place => place
  | caseFlag place => place
  | bareText _ place => place

structure TokenForm where
  attributes : List Attribute
  location : Location
  deriving Inhabited

inductive ItemForm where
  | tokens (first : TokenForm) (others : List TokenForm)
  | phrase (name : String) (location : Location)
  | marker (items : List ItemForm) (location : Location)
  | unify (negate : Bool) (features : List String) (items : List ItemForm) (location : Location)
  deriving Inhabited

structure PatternForm where
  caseSensitive : Bool
  items : List ItemForm
  deriving Inhabited

inductive ExampleKind where
  | incorrect
  | correct
  | untouched
  | ambiguous
  deriving DecidableEq, Inhabited

def ExampleKind.name : ExampleKind → String
  | incorrect => "incorrect"
  | correct => "correct"
  | untouched => "untouched"
  | ambiguous => "ambiguous"

inductive ExampleKey where
  | correction
  | input
  | output
  deriving DecidableEq, Inhabited

structure ExampleForm where
  kind : ExampleKind
  text : String
  attributes : List (ExampleKey × String)
  location : Location
  deriving Inhabited

inductive RuleEntry where
  | pattern (p : PatternForm)
  | message (text : String)
  | short (text : String)
  | suggestion (text : String)
  | overlap
  | sample (e : ExampleForm)
  deriving Inhabited

structure RuleForm where
  id : Option (String × Location)
  description : Option String
  entries : List RuleEntry
  location : Location
  deriving Inhabited

inductive ActionKey where
  | tag
  | base
  | replacement
  deriving DecidableEq, Inhabited

def ActionKey.name : ActionKey → String
  | tag => "pos"
  | base => "lemma"
  | replacement => "replace"

structure ActionAttribute where
  key : ActionKey
  op : Operator
  value : String
  location : Location
  deriving DecidableEq, Inhabited

structure ActionForm where
  kind : ActionKind
  attributes : List ActionAttribute
  location : Location
  deriving Inhabited

inductive ReadingKey where
  | base
  | tag
  deriving DecidableEq, Inhabited

inductive DisambiguationEntry where
  | pattern (p : PatternForm)
  | action (a : ActionForm)
  | reading (attributes : List (ReadingKey × String))
  | sample (e : ExampleForm)
  deriving Inhabited

structure DisambiguationForm where
  id : String
  description : Option String
  entries : List DisambiguationEntry
  location : Location
  deriving Inhabited

structure FeatureForm where
  name : String
  types : List (String × List Attribute)
  location : Location
  deriving Inhabited

structure PhraseForm where
  name : String
  alternatives : List (List ItemForm)
  location : Location
  deriving Inhabited

inductive Form where
  | feature (f : FeatureForm)
  | phrase (p : PhraseForm)
  | group (id : String) (description : Option String) (rules : List RuleForm)
  | rule (r : RuleForm)
  | disambiguation (d : DisambiguationForm)
  deriving Inhabited

end GrammarCheck.Source
