import NodeDesk.Url.Percent
/-!
# Resolver — where the links of a listing point

A node or user is linked by its id, percent-encoded into one segment between a configured prefix and a closing slash.
-/
namespace NodeDesk
namespace Url

/-- The prefixes that node and user links start with. -/
structure Resolver where
  nodeBase : String := "/admin/nodes/"
  userBase : String := "/admin/users/"
  deriving Repr, DecidableEq

namespace Resolver

def nodeUrl (r : Resolver) (id : String) : String := r.nodeBase ++ Percent.encode id ++ "/"

def userUrl (r : Resolver) (id : String) : String := r.userBase ++ Percent.encode id ++ "/"

end Resolver
end Url
end NodeDesk
