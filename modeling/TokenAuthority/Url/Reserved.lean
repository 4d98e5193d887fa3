/-!
# Reserved characters

Which characters cannot stand for themselves in a part of a url. Control characters and whatever
lies beyond ASCII never can.
-/

namespace TokenAuthority.Url.Reserved

def control (value : Char) : Bool :=
  value.toNat < 0x20 || 0x7F ≤ value.toNat

def fragment (value : Char) : Bool :=
  control value || [' ', '"', '<', '>', '\x60'].contains value

def query (value : Char) : Bool :=
  control value || [' ', '"', '#', '<', '>'].contains value

def specialQuery (value : Char) : Bool :=
  query value || value == '\''

def path (value : Char) : Bool :=
  fragment value || ['#', '?', '\x7b', '\x7d'].contains value

/-- A segment that is put into a path cannot end there, and nothing in it is decoded. -/
def segment (value : Char) : Bool :=
  path value || ['/', '%'].contains value

/-- Under schemes that name hosts a backslash ends a segment too. -/
def specialSegment (value : Char) : Bool :=
  segment value || value == '\\'

def userInfo (value : Char) : Bool :=
  path value || ['/', ':', ';', '=', '@', '[', '\\', ']', '^', '|'].contains value

end TokenAuthority.Url.Reserved
