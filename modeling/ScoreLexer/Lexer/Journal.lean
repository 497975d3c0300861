import ScoreLexer.Lexer.Basic

namespace ScoreLexer

inductive LogLevel where
  | off | error | warn | info | debug | trace
deriving DecidableEq, Repr

namespace LogLevel

def all : List LogLevel := [.off, .error, .warn, .info, .debug, .trace]

def name : LogLevel → String
  | .off => "OFF"
  | .error => "ERROR"
  | .warn => "WARN"
  | .info => "INFO"
  | .debug => "DEBUG"
  | .trace => "TRACE"

-- The level of the given name, in capitals or not.
def ofName? (name : String) : Option LogLevel :=
  all.find? fun level => level.name.toList == name.toList.map Char.toUpper

-- Whether reports of the second level are made when the first is asked for.
def shows (asked level : LogLevel) : Bool :=
  all.idxOf level ≤ all.idxOf asked

end LogLevel

inductive Event where
  | entered (frame : Frame)
  | left (context : Context)
  | stayedAtRoot
  | counted (frame : Frame)
  | fellThrough (context : Context) (position : Nat)
  | foundArity (command : String) (arity : UInt8)
  | preparedLexer
  | lexedDocument (lines : Nat)
  | relexed (lines : Nat) (first : Nat)
deriving DecidableEq, Repr

namespace Event

def level : Event → LogLevel
  | .preparedLexer | .lexedDocument _ | .relexed _ _ => .debug
  | _ => .trace

def message : Event → String
  | .entered frame => s!"enter {frame.context.name} (argcount {frame.pending})"
  | .left context => s!"leave {context.name}"
  | .stayedAtRoot => "leave ignored at the bottom of the stack"
  | .counted frame => s!"{frame.context.name} now expects {frame.pending} argument(s)"
  | .fellThrough context position => s!"fallthrough from {context.name} at {position}"
  | .foundArity command arity => s!"markup command {command} takes {arity} argument(s)"
  | .preparedLexer => "compiled lexer patterns"
  | .lexedDocument lines => s!"lexed document of {lines} line(s)"
  | .relexed lines first => s!"re-lexed {lines} line(s) from line {first}"

def render (event : Event) : String := s!"[{event.level.name}] {event.message}\n"

end Event

namespace Stack

def leaveEvents (stack : Stack) : List Event :=
  match stack.above with
  | [] => [.stayedAtRoot]
  | frame :: _ => [.left frame.context]

def replaceEvents (frame : Frame) (stack : Stack) : List Event :=
  stack.leaveEvents ++ if stack.isAtRoot then [] else [.entered frame]

-- The events of an end of argument that starts in the given frames above a bottom frame.
def signalEvents (root : Frame) : List Frame → List Event
  | [] => if root.pending = 0 then [] else [.counted { root with pending := root.pending - 1 }]
  | frame :: below =>
      match frame.pending with
      | 0 => []
      | 1 => .left frame.context :: signalEvents root below
      | more + 2 => [.counted { frame with pending := more + 1 }]

def endArgumentEvents (stack : Stack) : List Event := signalEvents stack.root stack.above

def giveWayEvents (position : Nat) (stack : Stack) : List Event :=
  let context := stack.top.context
  .fellThrough context position ::
    match context.fallthrough? with
    | some (.replace next) => stack.replaceEvents (Frame.fresh next)
    | _ => stack.leaveEvents

end Stack

def Step.events (markupArity : String → UInt8) (text : Text) (stack : Stack) : Step → List Event
  | .enter context => [.entered (Frame.fresh context)]
  | .enterExpecting context count => [.entered ⟨context, count⟩]
  | .leave => stack.leaveEvents
  | .endArgument => stack.endArgumentEvents
  | .openBody =>
      match stack.top.context.opening? with
      | some (.replace body) => stack.replaceEvents (Frame.fresh body)
      | some (.enter body) => [.entered (Frame.fresh body)]
      | none => []
  | .markupArguments =>
      let command := commandName text
      let arity := markupArity command
      .foundArity command arity ::
        if arity == 0 then stack.endArgumentEvents else [.entered (markupFrame arity)]
  | .expectArgument => []
  | .schemeExpression => [.entered schemeFrame]

def Step.listEvents (markupArity : String → UInt8) (text : Text) : Stack → List Step → List Event
  | _, [] => []
  | stack, step :: steps =>
      step.events markupArity text stack ++
        listEvents markupArity text (step.apply markupArity text stack) steps

def Emission.events (markupArity : String → UInt8) (emission : Emission) : List Event :=
  let token := emission.token
  emission.gaveWay.flatMap (Stack.giveWayEvents token.position) ++
    Step.listEvents markupArity token.text emission.stack token.kind.steps

def Run.events (markupArity : String → UInt8) (size : Nat) (run : Run) : List Event :=
  run.emissions.flatMap (Emission.events markupArity) ++
    run.gaveWay.flatMap (Stack.giveWayEvents size)

end ScoreLexer
