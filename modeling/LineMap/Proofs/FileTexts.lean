import LineMap.FileSystem.Tree
import LineMap.Proofs.Lookup
import LineMap.Proofs.Utf8Encoding
import LineMap.Source.Load
/-!
# File texts — a file gives the text that its bytes encode

Loading a file is reading its bytes as a text and nothing more: a file
gives a source exactly if its bytes are the encoding of a text that is not
too long, and then the source is the one that this text gives in memory,
but for its origin. A mark at the front, a carriage return and a null
character are characters like others. Any other bytes are refused with a
fault that names the path.
-/

namespace LineMap

open Text.Utf8 (encode decode decode_eq_ok_iff)

variable {fs : FileSystem} {path : Path} {bytes : List UInt8} {text : Text} {s : Source}

/-- The bytes can be read at a path, which therefore has no null character. -/
def FileSystem.Holds (fs : FileSystem) (path : Path) (bytes : List UInt8) : Prop :=
  path.hasNull = false ∧ fs.read path = .ok bytes

namespace Source

/-- Of the bytes, all that counts is what they are read as. -/
theorem ofFile_of_holds (h : fs.Holds path bytes) :
    ofFile fs path =
      match decode bytes with
      | .ok text => ofText (.file path) text
      | .error fault => .error (.unreadable path.text (.undecodable fault)) := by
  rw [ofFile, if_neg (by rw [h.1]; decide), readText, h.2, ok_bind]
  cases decode bytes <;> rfl

/-- **The source of a file** has the path for its origin and the text that
the bytes encode. -/
theorem ofFile_eq_ok_iff (h : fs.Holds path bytes) :
    ofFile fs path = .ok s ↔ s.origin = .file path ∧ bytes = encode s.text := by
  rw [ofFile_of_holds h]
  cases hread : decode bytes with
  | ok text =>
    obtain rfl := decode_eq_ok_iff.1 hread
    rw [Text.Utf8.encode_inj, @eq_comm _ text]
    exact ofText_eq_ok_iff
  | error fault =>
    refine ⟨fun hs => (by cases hs), fun hs => ?_⟩
    rw [decode_eq_ok_iff.2 hs.2] at hread
    cases hread

/-- Bytes that encode no text are refused. -/
theorem exists_ofFile_eq_error (h : fs.Holds path bytes) (hbytes : ∀ text, bytes ≠ encode text) :
    ∃ fault, ofFile fs path = .error (.unreadable path.text (.undecodable fault)) := by
  rw [ofFile_of_holds h]
  cases hread : decode bytes with
  | ok text => exact absurd (decode_eq_ok_iff.1 hread) (hbytes text)
  | error fault => exact ⟨fault, rfl⟩

/-- **A file is the text that its bytes encode.** Where bytes can be read,
they give a source exactly if they are the encoding of a text that is not
too long. The source has that very text, and its lines start where they do
in a source that the text gives in memory. Bytes that encode no text are
refused, with the path as it is written. -/
theorem ofFile_iff_encode (h : fs.Holds path bytes) :
    ((∃ s, ofFile fs path = .ok s) ↔ ∃ text, bytes = encode text ∧ text.length ≤ maxOffset) ∧
    (∀ text, bytes = encode text → text.length ≤ maxOffset →
      ∃ s, ofFile fs path = .ok s ∧ s.origin = .file path ∧ s.text = text ∧
        ∀ origin, ∃ m, ofText origin text = .ok m ∧ s.table.starts = m.table.starts) ∧
    ((∀ text, bytes ≠ encode text) →
      ∃ fault, ofFile fs path = .error (.unreadable path.text (.undecodable fault))) := by
  have hmemory : ∀ text, bytes = encode text → text.length ≤ maxOffset →
      ∃ s, ofFile fs path = .ok s ∧ s.origin = .file path ∧ s.text = text ∧
        ∀ origin, ∃ m, ofText origin text = .ok m ∧ s.table.starts = m.table.starts := by
    intro text hbytes hlen
    obtain ⟨s, -, horigin, htext⟩ := ofText_of_le (.file path) hlen
    have hs : ofFile fs path = .ok s := (ofFile_eq_ok_iff h).2 ⟨horigin, by rw [hbytes, htext]⟩
    refine ⟨s, hs, horigin, htext, fun origin => ?_⟩
    obtain ⟨m, hm, -, htext'⟩ := ofText_of_le origin hlen
    exact ⟨m, hm, by rw [s.table_eq, m.table_eq, htext, htext']⟩
  refine ⟨⟨?_, ?_⟩, hmemory, exists_ofFile_eq_error h⟩
  · rintro ⟨s, hs⟩
    exact ⟨s.text, ((ofFile_eq_ok_iff h).1 hs).2, s.length_text_le⟩
  · rintro ⟨text, hbytes, hlen⟩
    obtain ⟨s, hs, -⟩ := hmemory text hbytes hlen
    exact ⟨s, hs⟩

/-- A mark at the front, a null character, two kinds of line ends and a
character of four bytes; and a surrogate in the form of three bytes. -/
theorem ofFile_iff_encode_of_mixed :
    let mixed := ['\uFEFF', 'a', '\r', '\n', '\x00', '\r', '😀', '\n']
    let tree := (FileTree.mk [] []).insert (Path.ofString "data/mixed.txt") (.file (encode mixed))
      |>.insert (Path.ofString "data/bad.txt") (.file [0x61, 0xED, 0xA0, 0x80])
    (∃ s m, ofFileNamed tree.toFileSystem "data/mixed.txt" = .ok s ∧ s.text = mixed ∧
      ofText .unknown mixed = .ok m ∧ s.table.starts = m.table.starts) ∧
    ∃ fault, ofFileNamed tree.toFileSystem "./data//bad.txt" =
      .error (.unreadable "data/bad.txt" (.undecodable fault)) := by
  intro mixed tree
  constructor
  · have hholds : tree.toFileSystem.Holds (Path.ofString "data/mixed.txt") (encode mixed) :=
      ⟨by decide, rfl⟩
    obtain ⟨-, hread, -⟩ := ofFile_iff_encode hholds
    obtain ⟨s, hs, -, htext, hstarts⟩ := hread mixed rfl (by decide)
    obtain ⟨m, hm, heq⟩ := hstarts .unknown
    exact ⟨s, m, hs, htext, hm, heq⟩
  · have hholds : tree.toFileSystem.Holds (Path.ofString "./data//bad.txt")
        [0x61, 0xED, 0xA0, 0x80] :=
      ⟨by decide, rfl⟩
    refine (ofFile_iff_encode hholds).2.2 fun text htext => ?_
    have hread := decode_eq_ok_iff.2 htext
    have hrefused : decode [0x61, 0xED, 0xA0, 0x80] =
        .error ⟨1, 0xED, 0, .invalidContinuation⟩ := rfl
    rw [hrefused] at hread
    cases hread

end Source

end LineMap
