import WikiDump.Command.Console
import WikiDump.Site.Redirects
/-!
# Listing redirects

`redirects` reads the namespace numbers of its arguments, the namespace names of a siteinfo
file (the one `--siteinfo` names, else the configured one), a page dump and a redirect dump, in
that order, stopping at the first that fails. It then writes one line per redirect page of the
chosen namespaces; lines written before a failure stay written.
-/

namespace WikiDump.Command

def listRedirectPages (s : Session) (args : List String) : Step Unit := do
  let namespaces ← require (Site.parseNamespaceArgs args)
  let siteinfo := if (s.text "siteinfo").isEmpty then s.settings.siteinfoPath else s.text "siteinfo"
  let info ← s.openFile siteinfo
  let names ← require ((Site.NamespaceMap.parse info.data).mapError fun e =>
    "parse " ++ siteinfo ++ ": " ++ e.message)
  let pages ← s.openFile (s.text "page")
  let redirects ← s.openFile (s.text "redirect")
  let listing := Site.listRedirects pages.data redirects.data namespaces names
  say listing.output
  match listing.error with
  | some e => throw e.message
  | none => pure ()

end WikiDump.Command

