import GrammarCheck.Source.Form

/-! What can be wrong with a rule file: it is not made of forms, or a form makes no sense where it stands. -/

namespace GrammarCheck.Source

inductive Fault where
  | idInGroup
  | missingId
  | missingPattern (id : String)
  | missingAction (id : String)
  | secondAction (id : String)
  | secondText
  | operatorNotEqual (op : Operator)
  | notNumber (text : String)
  | notSpaceValue (text : String)
  | notConditionInException
  | notConditionInType
  | exampleOfDisambiguation (kind : ExampleKind)
  | exampleOfGrammar (kind : ExampleKind)
  | actionAttribute (key : ActionKey) (op : Operator)
  deriving DecidableEq, Inhabited

def Fault.message : Fault → String
  | idInGroup => "Rules inside a group take the group id"
  | missingId => "Rule without id"
  | missingPattern id => "Rule " ++ id ++ " has no pattern"
  | missingAction id => "Rule " ++ id ++ " has no action"
  | secondAction id => "Rule " ++ id ++ " declares more than one action"
  | secondText => "A token takes one text or lemma condition; use & for more"
  | operatorNotEqual op => "Expected '=' but found '" ++ op.symbol ++ "'"
  | notNumber text => "Expected a number but found '" ++ text ++ "'"
  | notSpaceValue text => "Bad space value: " ++ text
  | notConditionInException => "Only token conditions are allowed in an exception"
  | notConditionInType => "Only token conditions are allowed in a unification type"
  | exampleOfDisambiguation kind => "Example kind '" ++ kind.name ++ "' is for disambiguation rules"
  | exampleOfGrammar kind => "Example kind '" ++ kind.name ++ "' is for grammar rules"
  | actionAttribute key op => "Unsupported action attribute " ++ key.name ++ op.symbol

inductive SourceError where
  | malformed
  | invalid (location : Location) (fault : Fault)
  deriving DecidableEq, Inhabited

/-- The message of an error; that a file is malformed has no place. -/
def SourceError.message : SourceError → String
  | malformed => "Rule file error"
  | invalid location fault => "Rule file error at " ++ location.render ++ ": " ++ fault.message

end GrammarCheck.Source
