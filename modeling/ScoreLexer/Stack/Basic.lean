import ScoreLexer.Context.Catalogue

namespace ScoreLexer

structure Frame where
  context : Context
  -- the number of arguments still to come
  pending : Nat
deriving DecidableEq, Repr

namespace Frame

def fresh (context : Context) : Frame := ⟨context, context.freshArguments⟩

def render (frame : Frame) : String :=
  if 0 < frame.pending then s!"{frame.context.name}({frame.pending})" else frame.context.name

end Frame

-- A bottom frame, which is never removed or exchanged, and the frames above it, the top one first.
structure Stack where
  root : Frame
  above : List Frame
  canBeRoot_root : root.context.canBeRoot = true
deriving DecidableEq

inductive StackError where
  | noFrame
  | invalidRoot (context : Context)
deriving DecidableEq, Repr

def StackError.message : StackError → String
  | .noFrame => "a context stack needs at least one frame"
  | .invalidRoot context => s!"context {context.name} cannot be the bottom of a context stack"

namespace Stack

def toplevel : Stack := ⟨Frame.fresh .toplevel, [], rfl⟩

def ofFrames : List Frame → Except StackError Stack
  | [] => .error .noFrame
  | root :: above =>
      if h : root.context.canBeRoot = true then .ok ⟨root, above.reverse, h⟩
      else .error (.invalidRoot root.context)

-- The frames, bottom first.
def frames (stack : Stack) : List Frame := stack.root :: stack.above.reverse

theorem ofFrames_frames (stack : Stack) : ofFrames stack.frames = .ok stack := by
  simp [ofFrames, frames, stack.canBeRoot_root]

def depth (stack : Stack) : Nat := stack.above.length + 1

def isAtRoot (stack : Stack) : Bool := stack.above.isEmpty

def top (stack : Stack) : Frame := stack.above.headD stack.root

def enter (frame : Frame) (stack : Stack) : Stack := { stack with above := frame :: stack.above }

-- Remove the top frame, unless it is the bottom one.
def leave (stack : Stack) : Stack := { stack with above := stack.above.tail }

def replace (frame : Frame) (stack : Stack) : Stack :=
  if stack.isAtRoot then stack else stack.leave.enter frame

def expect (count : Nat) (stack : Stack) : Stack :=
  match stack.above with
  | [] => { stack with root.pending := count }
  | frame :: below => { stack with above := { frame with pending := count } :: below }

-- The end of an argument. A frame that waits for its last argument is complete with it and is
-- itself an argument of the frame below, so the signal moves on. A frame that waits for more counts
-- down, and one that waits for none absorbs the signal. There is no result when the signal goes
-- through to the bottom frame.
def signal : List Frame → Option (List Frame)
  | [] => none
  | frame :: below =>
      match frame.pending with
      | 0 => some (frame :: below)
      | 1 => signal below
      | more + 2 => some ({ frame with pending := more + 1 } :: below)

-- One argument is complete. The bottom frame counts down and stays.
def endArgument (stack : Stack) : Stack :=
  match signal stack.above with
  | some above => { stack with above := above }
  | none => { stack with root.pending := stack.root.pending - 1, above := [] }

def giveWay? (stack : Stack) : Option Stack :=
  match stack.above with
  | [] => none
  | frame :: below =>
      match frame.context.fallthrough? with
      | none => none
      | some .leave => some { stack with above := below }
      | some (.replace next) => some { stack with above := Frame.fresh next :: below }

-- All that giving way can do: the top frame goes, or another one comes in its place.
theorem exists_of_giveWay? {stack lower : Stack} (h : stack.giveWay? = some lower) :
    ∃ frame below, stack.above = frame :: below ∧
      (frame.context.fallthrough? = some .leave ∧ lower = { stack with above := below } ∨
        ∃ next, frame.context.fallthrough? = some (.replace next) ∧
          lower = { stack with above := Frame.fresh next :: below }) := by
  unfold giveWay? at h
  split at h
  · simp at h
  · next frame below habove =>
    refine ⟨frame, below, habove, ?_⟩
    split at h
    · simp at h
    · next hleave => exact .inl ⟨hleave, (Option.some.inj h).symm⟩
    · next next hreplace => exact .inr ⟨next, hreplace, (Option.some.inj h).symm⟩

-- How often the stack can still give way at most.
def slack (stack : Stack) : Nat :=
  match stack.above with
  | [] => 0
  | frame :: below =>
      2 * below.length +
        match frame.context.fallthrough? with
        | some (.replace _) => 2
        | _ => 1

theorem slack_lt_of_giveWay? {stack next : Stack} (h : stack.giveWay? = some next) :
    next.slack < stack.slack := by
  obtain ⟨frame, below, habove, ⟨hleave, rfl⟩ | ⟨next, hreplace, rfl⟩⟩ := exists_of_giveWay? h
  · simp only [slack, habove, hleave]
    cases below with
    | nil => simp
    | cons frame below =>
      simp only [List.length_cons]
      split <;> omega
  · simp [slack, habove, hreplace, Frame.fresh, Context.fallthrough?_of_replace hreplace]

def render (stack : Stack) : String := " > ".intercalate (stack.frames.map Frame.render)

end Stack

end ScoreLexer
