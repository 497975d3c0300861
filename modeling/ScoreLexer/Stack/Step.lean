import ScoreLexer.Stack.Basic
import ScoreLexer.Text.Basic

namespace ScoreLexer

inductive Step where
  | enter (context : Context)
  | enterExpecting (context : Context) (count : Nat)
  | leave
  | endArgument
  -- a plain opening delimiter: what the top context says about it
  | openBody
  -- put a markup frame on top for the arguments of the command, or end an argument when the
  -- command has none
  | markupArguments
  -- make the top frame wait for one argument
  | expectArgument
  | schemeExpression
deriving DecidableEq, Repr

namespace Step

def render : Step → String
  | .enter context => s!"Enter {context.name}"
  | .enterExpecting context count => s!"EnterWithArguments {context.name} {count}"
  | .leave => "Leave"
  | .endArgument => "EndArgument"
  | .openBody => "OpenBody"
  | .markupArguments => "MarkupArguments"
  | .expectArgument => "ExpectArgument"
  | .schemeExpression => "SchemeExpression"

def commandName (text : Text) : String := String.ofList (text.dropWhile (· == '\\'))

def markupFrame (arity : UInt8) : Frame := ⟨.markup, arity.toNat⟩

def schemeFrame : Frame := ⟨.scheme, 1⟩

def apply (markupArity : String → UInt8) (text : Text) (stack : Stack) : Step → Stack
  | .enter context => stack.enter (Frame.fresh context)
  | .enterExpecting context count => stack.enter ⟨context, count⟩
  | .leave => stack.leave
  | .endArgument => stack.endArgument
  | .openBody =>
      match stack.top.context.opening? with
      | some (.replace body) => stack.replace (Frame.fresh body)
      | some (.enter body) => stack.enter (Frame.fresh body)
      | none => stack
  | .markupArguments =>
      let arity := markupArity (commandName text)
      if arity == 0 then stack.endArgument else stack.enter (markupFrame arity)
  | .expectArgument => stack.expect 1
  | .schemeExpression => stack.enter schemeFrame

end Step

namespace Kind

-- The steps that run, in order, once a token of the kind is emitted.
def steps : Kind → List Step
  | .blockCommentStart => [.enter .blockComment]
  | .blockCommentEnd => [.leave]
  | .stringQuotedStart => [.enter .string]
  | .stringQuotedEnd => [.leave, .endArgument]
  | .duration => [.enter .duration]
  | .openBracket | .openSimultaneous => [.openBody]
  | .closeBracket | .closeSimultaneous | .sequentialEnd | .simultaneousEnd =>
      [.leave, .endArgument]
  | .sequentialStart | .simultaneousStart => [.enter .music]
  | .chordStart => [.enter .chord]
  | .chordEnd => [.leave]
  | .direction => [.enter .scriptAbbreviation]
  | .scriptAbbreviation => [.leave]
  | .book => [.enter .expectBook]
  | .bookPart => [.enter .expectBookPart]
  | .score | .markupScore => [.enter .expectScore]
  | .paper => [.enter .expectPaper]
  | .header => [.enter .expectHeader]
  | .layout => [.enter .expectLayout]
  | .midi => [.enter .expectMidi]
  | .withCommand => [.enter .expectWith]
  | .layoutContext => [.enter .expectContext]
  | .markup | .markupLines => [.enterExpecting .markup 1]
  | .markupCommand => [.markupArguments]
  | .markupWord => [.endArgument]
  | .openBracketMarkup => [.enter .markup]
  | .closeBracketMarkup => [.endArgument, .leave, .endArgument]
  | .repeatCommand => [.enter .repetition]
  | .repeatCount => [.leave]
  | .overrideCommand => [.enter .overriding]
  | .setCommand => [.enter .setting]
  | .revertCommand => [.enter .reverting]
  | .unsetCommand => [.enter .unsetting]
  | .equalSignSetOverride => [.expectArgument]
  | .newCommand | .contextCommand | .changeCommand => [.enter .newContext]
  | .clefCommand => [.enter .clef]
  | .clefSpecifier => [.endArgument]
  | .lyricMode => [.enter .expectLyricMode]
  | .noteMode => [.enter .expectNoteMode]
  | .chordMode => [.enter .expectChordMode]
  | .drumMode => [.enter .expectDrumMode]
  | .figureMode => [.enter .expectFigureMode]
  | .schemeStart => [.schemeExpression]
  | .schemeOpenParen => [.enter .schemeList]
  | .schemeCloseParen => [.leave, .endArgument]
  | .schemeBool | .schemeChar | .schemeNumber | .schemeWord => [.endArgument]
  | .schemeLilyPondStart => [.enter .schemeLilyPond]
  | .schemeLilyPondEnd => [.leave, .endArgument]
  | _ => []

def transition (markupArity : String → UInt8) (kind : Kind) (text : Text) (stack : Stack) :
    Stack :=
  kind.steps.foldl (Step.apply markupArity text) stack

end Kind

end ScoreLexer
