/-!
# Upper case

Key words are recognised by their upper-case form.  All of them are ASCII, so of the letters beyond
ASCII only those matter whose upper-case form is ASCII.
-/

namespace SqlLineage.Text

/-- The letters beyond ASCII whose upper-case form is ASCII. -/
def asciiUpperForms : List (Char × String) :=
  [('ß', "SS"), ('ı', "I"), ('ſ', "S"), ('ﬀ', "FF"), ('ﬁ', "FI"), ('ﬂ', "FL"), ('ﬃ', "FFI"),
    ('ﬄ', "FFL"), ('ﬅ', "ST"), ('ﬆ', "ST")]

/-- The upper-case form of a character; a letter whose upper-case form is not ASCII stands for
itself. -/
def upperForm (c : Char) : String :=
  if c.toNat < 128 then c.toUpper.toString else (asciiUpperForms.lookup c).getD c.toString

/-- The upper-case form of a text, exact wherever it is ASCII. -/
def upper (text : String) : String :=
  text.foldl (fun done c => done ++ upperForm c) ""

end SqlLineage.Text
