import MappingMarkers.Text.Basic

namespace MappingMarkers.Catalog

open Text

structure Credentials where
  user : Text
  password : Text
  dsn : Text
  deriving DecidableEq

/-- Reads `user/password@dsn`. The last at sign and the first slash before it are the separators, so
a password may hold both. -/
def Credentials.parse? (t : Text) : Option Credentials := do
  let (login, dsn) ← cutLast? '@' t
  let (user, password) ← cutFirst? '/' login
  if user.isEmpty || dsn.isEmpty then none else some { user, password, dsn }

end MappingMarkers.Catalog
