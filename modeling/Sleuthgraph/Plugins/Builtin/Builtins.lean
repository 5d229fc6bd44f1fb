import Sleuthgraph.Plugins.Builtin.CrtSh
import Sleuthgraph.Plugins.Builtin.DnsWhois
import Sleuthgraph.Plugins.Builtin.EvidenceOnly
import Sleuthgraph.Plugins.Builtin.GithubPublic
import Sleuthgraph.Plugins.Builtin.Hibp
import Sleuthgraph.Plugins.Builtin.OpenCorporates
import Sleuthgraph.Plugins.Builtin.Shodan
import Sleuthgraph.Plugins.Builtin.VirusTotal
import Sleuthgraph.Plugins.Builtin.WaybackCdx

/-!
# The built-in plugins (`plugins/builtin/`)
-/

namespace Sleuthgraph

/-- What the built-in plugins run against, together. -/
structure Surroundings where
  upstream : Upstream
  resolver : Resolver
  post : FormClient
  py : Interp

/-- The plugins that ship with the program. All of them fetch over HTTP. -/
inductive Builtin where
  | crtsh | dnsWhois | virustotal | shodan | hibp | waybackCdx | githubPublic | openCorporates
  | alephOccrp | openSanctions | urlhaus
deriving DecidableEq, Repr

def Builtin.plugin (w : Surroundings) : Builtin → OSINTPlugin
  | crtsh => crtShPlugin w.upstream
  | dnsWhois => dnsWhoisPlugin w.upstream w.resolver
  | virustotal => virusTotalPlugin w.upstream
  | shodan => shodanPlugin w.upstream
  | hibp => hibpPlugin w.upstream
  | waybackCdx => waybackCdxPlugin w.py w.upstream
  | githubPublic => githubPublicPlugin w.upstream
  | openCorporates => openCorporatesPlugin w.upstream
  | alephOccrp => alephOccrpPlugin w.upstream
  | openSanctions => openSanctionsPlugin w.upstream
  | urlhaus => urlhausPlugin w.py w.upstream w.post

end Sleuthgraph
