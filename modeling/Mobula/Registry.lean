import Mobula.Core
import Mobula.Foundation.Decimal
import Mobula.Foundation.Fallible
import Mobula.Foundation.IpText

/-!
# The cluster registry

Clusters that the gateway can route to besides the ones it manages. The registry is validated
before it is used; a URL that names an address of a cloud metadata service or an overlay network
is meant to be refused.
-/

namespace Mobula

open Foundation Fallible

structure ClusterEndpoint where
  id : ClusterId
  hostname : String
  apiBaseUrl : String
  authToken : Option String
  deriving DecidableEq, Repr

structure ClusterRegistry where
  clusters : List ClusterEndpoint
  deriving DecidableEq, Repr

namespace ClusterRegistry

def byId (registry : ClusterRegistry) (id : ClusterId) : Option ClusterEndpoint :=
  registry.clusters.find? (·.id = id)

theorem mem_of_byId {registry : ClusterRegistry} {id : ClusterId} {endpoint : ClusterEndpoint}
    (found : registry.byId id = some endpoint) : endpoint ∈ registry.clusters :=
  List.mem_of_find?_eq_some found

end ClusterRegistry

inductive RegistryError where
  | duplicateHostname (hostname : String)
  | duplicateId (id : String)
  | invalidUrl (id url reason : String)
  | cleartextToken (id : String)
  | invalidHostname (id hostname : String)
  deriving DecidableEq, Repr

def toAsciiLowercase (text : String) : String :=
  String.ofList (text.toList.map Char.toLower)

def eqIgnoreAsciiCase (first second : String) : Bool :=
  toAsciiLowercase first = toAsciiLowercase second

def splitOnce (separator : List Char) : List Char → Option (List Char × List Char)
  | [] => none
  | c :: text =>
    if separator.isPrefixOf (c :: text) then some ([], (c :: text).drop separator.length)
    else (splitOnce separator text).map fun parts => (c :: parts.1, parts.2)

def authorityOf (url : String) : List Char :=
  (((splitOnce "://".toList url.toList).map (·.2)).getD []).takeWhile (· ≠ '/')

def authorityHost : List Char → List Char
  | '[' :: rest => rest.takeWhile (· ≠ ']')
  | authority => authority.takeWhile (· ≠ ':')

/-- A host header without its port: in brackets, or what stands before a single colon and digits. -/
def stripPort : List Char → List Char
  | '[' :: rest => rest.takeWhile (· ≠ ']')
  | host =>
    if host.count ':' = 1 then
      let port := (host.dropWhile (· ≠ ':')).drop 1
      if !port.isEmpty && port.all Char.isDigit then host.takeWhile (· ≠ ':') else host
    else host

def ClusterRegistry.byHostname (registry : ClusterRegistry) (host : String) :
    Option ClusterEndpoint :=
  registry.clusters.find? fun cluster =>
    eqIgnoreAsciiCase cluster.hostname (String.ofList (stripPort host.toList))

/-- Link-local and carrier-grade NAT addresses. -/
def isDeniedSouthboundIp : IpAddr → Bool
  | .v4 a b _ _ => (a = 169 && b = 254) || (a = 100 && (64 ≤ b && b < 128))
  | .v6 a .. => a &&& 0xffc0 = 0xfe80

def startsWith (start : String) (text : String) : Bool :=
  start.toList.isPrefixOf text.toList

namespace ClusterEndpoint

/-- The IP literal that the validation finds in the base URL. -/
def screenedIp (endpoint : ClusterEndpoint) : Option IpAddr :=
  IpAddr.parse (authorityHost (authorityOf endpoint.apiBaseUrl))

def validateUrl (endpoint : ClusterEndpoint) (allowInsecureTransport : Bool) :
    Except RegistryError Unit := do
  let isHttps := startsWith "https://" endpoint.apiBaseUrl
  let isHttp := startsWith "http://" endpoint.apiBaseUrl
  let invalid := RegistryError.invalidUrl endpoint.id endpoint.apiBaseUrl
  reject (!isHttps && !isHttp) (invalid "scheme must be http or https")
  let authority := authorityOf endpoint.apiBaseUrl
  reject authority.isEmpty (invalid "missing host")
  reject (authority.contains '@') (invalid "userinfo not allowed")
  reject (endpoint.apiBaseUrl.toList.contains '#') (invalid "fragment not allowed")
  reject (endpoint.screenedIp.any isDeniedSouthboundIp)
    (invalid ("literal IP in a link-local/CGNAT range (169.254.0.0/16, 100.64.0.0/10, " ++
      "fe80::/10) is not a cluster endpoint"))
  reject (endpoint.authToken.isSome && isHttp && !allowInsecureTransport)
    (.cleartextToken endpoint.id)

def validateHostname (endpoint : ClusterEndpoint) : Except RegistryError Unit :=
  reject (endpoint.hostname.isEmpty || endpoint.hostname.toList.any fun c =>
      isWhitespace c || c = '/' || c = '@' || c = '#')
    (.invalidHostname endpoint.id endpoint.hostname)

end ClusterEndpoint

namespace ClusterRegistry

/-- Check entries in order; ids and hostnames must differ from all earlier ones. -/
def validateFrom (allowInsecureTransport : Bool) (ids hostnames : List String) :
    List ClusterEndpoint → Except RegistryError Unit
  | [] => .ok ()
  | endpoint :: endpoints => do
      reject (ids.contains (toAsciiLowercase endpoint.id)) (.duplicateId endpoint.id)
      reject (hostnames.contains (toAsciiLowercase endpoint.hostname))
        (.duplicateHostname endpoint.hostname)
      endpoint.validateHostname
      endpoint.validateUrl allowInsecureTransport
      validateFrom allowInsecureTransport (toAsciiLowercase endpoint.id :: ids)
        (toAsciiLowercase endpoint.hostname :: hostnames) endpoints

def validate (registry : ClusterRegistry) (allowInsecureTransport : Bool) :
    Except RegistryError Unit :=
  validateFrom allowInsecureTransport [] [] registry.clusters

theorem validateUrl_of_validateFrom {allowInsecureTransport : Bool} {ids hostnames : List String}
    {endpoints : List ClusterEndpoint}
    (accepted : validateFrom allowInsecureTransport ids hostnames endpoints = .ok ()) :
    ∀ endpoint ∈ endpoints, endpoint.validateUrl allowInsecureTransport = .ok () := by
  induction endpoints generalizing ids hostnames with
  | nil => simp
  | cons first others ih =>
    simp only [validateFrom, bind_eq_ok] at accepted
    rcases accepted with ⟨_, _, _, _, _, _, _, checked, remaining⟩
    intro endpoint endpointMem
    rcases List.mem_cons.mp endpointMem with rfl | later
    · exact checked
    · exact ih remaining endpoint later

end ClusterRegistry

end Mobula
