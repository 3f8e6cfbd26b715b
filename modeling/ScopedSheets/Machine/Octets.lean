import ScopedSheets.Text.Utf8

/-!
# Octets

Programs know nothing of characters: their arguments, their input and their output are rows of bytes. Such a
row is held as a text in which each character stands for the byte of its number, so that what is said about
ASCII can be said with characters.
-/

namespace ScopedSheets.Octets

def ofBytes (bytes : Bytes) : Text := bytes.map fun b => Char.ofNat b.toNat

def toBytes (t : Text) : Bytes := t.map fun c => UInt8.ofNat c.toNat

def ofText (t : Text) : Text := ofBytes (Utf8.encode t)

def toText (t : Text) : Text := Utf8.decodeLossy (toBytes t)

end ScopedSheets.Octets
