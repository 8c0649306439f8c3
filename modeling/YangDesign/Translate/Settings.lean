/-
Settings of a translation: the name of the design, its namespace, the time of publication and whether instance data is used.

Without a namespace of its own a design has one made from its name. The prefixes that the written form of a design uses for
itself are no design names.
-/
import YangDesign.Design.Name
import YangDesign.Input.Checked
import YangDesign.Time.Calendar

namespace YangDesign.Translate

open Input Input.Checked Number Text Time

/-- settings of a translation -/
structure Settings where
  designName : String
  namespaceUri : Option String
  /-- seconds from 1970-01-01T00:00:00Z -/
  published : Int
  materialize : Bool
  deriving DecidableEq, Repr

/-- the name of a design that is given none -/
def defaultDesignName : String :=
  "rootModel"

namespace Settings

/-- namespace of the definitions of the design -/
def target (s : Settings) : String :=
  match s.namespaceUri with
  | some uri => if uri.isEmpty then "urn:yang-to-opcua:" ++ s.designName else uri
  | none => "urn:yang-to-opcua:" ++ s.designName

/-- time of publication as text -/
def timestamp (s : Settings) : String :=
  utcText s.published

/-- the default settings for a time of publication -/
def default (now : Int) : Settings :=
  ⟨defaultDesignName, none, now, true⟩

end Settings

/-- a design name -/
def checkDesignName (v : Value) : Checked String :=
  (textOf .designName v).andThen fun name => refusedIf (Design.isReserved name) (.rejected (.reservedDesignName name)) name

/-- seconds within the calendar -/
def withinCalendar (seconds : Int) : Checked Int :=
  if firstSecond ≤ seconds && seconds ≤ lastSecond then .ok seconds else .stopped .outsideCalendar

/-- a point in time; there is no year 0 -/
def checkReading (r : Reading) : Checked Int :=
  if r.date.year = 0 then Checked.fault (.uncountableMoment .yearZero) else withinCalendar r.seconds

/-- a count as a time -/
def checkCount (count : Except DateFault Int) : Checked Int :=
  match count with
  | .ok seconds => checkReading (.ofSeconds seconds)
  | .error fault => Checked.fault (.uncountableMoment fault)

/-- a point in time, in seconds from 1970-01-01T00:00:00Z -/
def checkMoment : Value → Checked Int
  | .text s =>
    match readMoment s with
    | .ok reading => checkReading reading
    | .error fault => Checked.fault (.unreadableMoment fault)
  | .int n => checkCount (if n.natAbs < countLimit then ofCount n else ofFloat (.ofInt n))
  | .float x => checkCount (ofFloat x)
  | _ => Checked.fault .notMoment

/-- settings from an object; `now` is the time of publication if none is given -/
def Settings.check (now : Int) : Value → Checked Settings :=
  object "TranslatorConfig" fun ms =>
    closed ["design_name", "namespace_uri", "publication_date", "materialize_instances"] ms
      (Settings.mk <$> defaulting "design_name" defaultDesignName checkDesignName ms <*>
        defaulting "namespace_uri" none (optional filledText) ms <*> defaulting "publication_date" now checkMoment ms <*>
        defaulting "materialize_instances" true boolean ms)

end YangDesign.Translate
