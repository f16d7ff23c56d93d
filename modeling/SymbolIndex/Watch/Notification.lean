import SymbolIndex.Path.Basic

/-!
# Notifications

What the file system tells those who watch its directories.
-/
namespace SymbolIndex

/-- What may have happened to some paths. -/
inductive NotificationKind
  | accessed
  /-- Something was made, written or moved, or it is not known what happened. -/
  | changed
  /-- Something was removed, or something else happened that makes no directories. -/
  | other
  deriving DecidableEq, Repr, Inhabited

inductive Notification
  | event (kind : NotificationKind) (paths : List Path)
  /-- Notifying failed for some paths. -/
  | fault (text : String) (paths : List Path)
  deriving Repr, Inhabited

end SymbolIndex
