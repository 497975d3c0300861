import ScoreLexer.Listing.Record

namespace ScoreLexer

inductive Problem where
  | unexpected (record : Record)
  | unterminated (final : Stack)
deriving DecidableEq

def Problem.render (path : String) : Problem → String
  | .unexpected record =>
      s!"{path}:{record.line}:{record.column}: unexpected {record.quotedText} " ++
        s!"({record.token.kind.name})\n"
  | .unterminated final =>
      s!"{path}: unterminated construct, input ends inside {final.render}\n"

def Document.problems (document : Document) : List Problem :=
  ((document.records.filter fun record => record.token.kind.isError).map .unexpected) ++
    if document.isUnterminated then [.unterminated document.final] else []

end ScoreLexer
