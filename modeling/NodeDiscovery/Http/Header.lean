/-! Values of header fields. -/
namespace NodeDiscovery.Http

/-- A header value holds no control character but the tab. -/
def isHeaderText (s : String) : Bool :=
  s.toList.all fun c => (' ' ≤ c && c != '\x7f') || c == '\t'

end NodeDiscovery.Http
