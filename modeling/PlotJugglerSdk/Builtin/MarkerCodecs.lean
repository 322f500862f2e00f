import PlotJugglerSdk.Builtin.ImageCodecs

/-!
# Plot markers

Markers on a time series. This codec has colour functions of its own, and it
alone decodes an empty buffer: that is the canonical empty set.
-/

namespace PlotJugglerSdk

open Wire FloatOps

/-! ## Enumerations -/

def MarkerKind.code : MarkerKind → UInt64
  | .region => 0
  | .event => 1
  | .valueBand => 2
  | .label => 3

def mapKind (v : UInt64) : MarkerKind :=
  match v.toNat with
  | 0 => .region
  | 1 => .event
  | 2 => .valueBand
  | 3 => .label
  | _ => .region

def MarkerStatus.code : MarkerStatus → UInt64
  | .none => 0
  | .pass => 1
  | .fail => 2

def mapStatus (v : UInt64) : MarkerStatus :=
  match v.toNat with
  | 1 => .pass
  | 2 => .fail
  | _ => .none

def MarkerSeverity.code : MarkerSeverity → UInt64
  | .info => 0
  | .warning => 1
  | .error => 2
  | .critical => 3

def mapSeverity (v : UInt64) : MarkerSeverity :=
  match v.toNat with
  | 1 => .warning
  | 2 => .error
  | 3 => .critical
  | _ => .info

theorem mapKind_code (kind : MarkerKind) : mapKind kind.code = kind := by
  cases kind <;> rfl

theorem mapStatus_code (status : MarkerStatus) : mapStatus status.code = status := by
  cases status <;> rfl

theorem mapSeverity_code (severity : MarkerSeverity) : mapSeverity severity.code = severity := by
  cases severity <;> rfl

/-! ## Markers -/

variable [FloatOps]

namespace Marker

/-- The codec's own copy of `writeColor`. -/
def writeColor (color : ColorRGBA) : Bytes :=
  Writer.doubleField 1 (byteToNormalized color.r) ++
    Writer.doubleField 2 (byteToNormalized color.g) ++
    Writer.doubleField 3 (byteToNormalized color.b) ++
    Writer.doubleField 4 (byteToNormalized color.a)

def colorLoop : FieldLoop ColorParts := .strict colorFields

/-- An absent alpha is zero, as in the shared `decodeColor`. -/
def decodeColor : Decoder ColorRGBA := colorLoop.finish {} fun parts => some parts.color

theorem decodeColor_writeColor (hexact : ColorExact) {color : ColorRGBA} (out : ColorRGBA)
    (hlen : (writeColor color).length < 2 ^ 64) :
    decodeColor (writeColor color) out = (true, color) :=
  FieldLoop.finish_of_decode out (Rebuilds.decode (rebuilds_writeColor color {}) hlen)
    (congrArg some (ColorParts.color_byteToNormalized hexact color))

end Marker

def writeProperty (property : MarkerProperty) : Bytes :=
  Writer.string 1 property.key ++ Writer.string 2 property.value

def propertyFields : List (FieldDecl MarkerProperty) :=
  [.bytes 1 fun key out => { out with key },
   .bytes 2 fun value out => { out with value }]

def propertyLoop : FieldLoop MarkerProperty := .strict propertyFields

def decodeProperty : Decoder MarkerProperty := propertyLoop.decode

omit [FloatOps] in
theorem decodeProperty_writeProperty {property : MarkerProperty}
    (hlen : (writeProperty property).length < 2 ^ 64) :
    decodeProperty (writeProperty property) {} = (true, property) := by
  have hbuild : Rebuilds propertyFields (writeProperty property) {} property := by
    apply Rebuilds.append
    · exact .bytes (by decide) rfl rfl
    · exact .bytes (by decide) rfl rfl
  exact Rebuilds.decode hbuild hlen

def writeMarker (marker : PlotMarker) : Bytes :=
  Writer.varint 1 marker.kind.code ++
    Writer.varint 2 marker.tStart.toUInt64 ++
    Writer.varint 3 marker.tEnd.toUInt64 ++
    Writer.doubleField 4 marker.valueLow ++
    Writer.doubleField 5 marker.valueHigh ++
    Writer.varint 6 (varintOfBool marker.hasValue) ++
    Writer.varint 7 marker.status.code ++
    Writer.varint 8 marker.severity.code ++
    Writer.string 9 marker.category ++
    Writer.string 10 marker.label ++
    Writer.string 11 marker.description ++
    Writer.message 12 (Marker.writeColor marker.color) ++
    (marker.metadata.flatMap fun property => Writer.message 13 (writeProperty property))

def markerFields : List (FieldDecl PlotMarker) :=
  [.varint 1 fun v out => { out with kind := mapKind v },
   .varint 2 fun v out => { out with tStart := v.toInt64 },
   .varint 3 fun v out => { out with tEnd := v.toInt64 },
   .fixed64 4 fun valueLow out => { out with valueLow },
   .fixed64 5 fun valueHigh out => { out with valueHigh },
   .varint 6 fun v out => { out with hasValue := v != 0 },
   .varint 7 fun v out => { out with status := mapStatus v },
   .varint 8 fun v out => { out with severity := mapSeverity v },
   .bytes 9 fun category out => { out with category },
   .bytes 10 fun label out => { out with label },
   .bytes 11 fun description out => { out with description },
   .message 12 Marker.decodeColor (·.color) fun color out => { out with color },
   .repeated 13 decodeProperty {} fun f out => { out with metadata := f out.metadata }]

def markerLoop : FieldLoop PlotMarker := .lenient markerFields

def decodeMarker : Decoder PlotMarker := markerLoop.decode

theorem decodeMarker_writeMarker (hexact : ColorExact) {marker : PlotMarker}
    (hlen : (writeMarker marker).length < 2 ^ 64) :
    decodeMarker (writeMarker marker) {} = (true, marker) := by
  have hbuild : Rebuilds markerFields (writeMarker marker) {} marker := by
    iterate 12 apply Rebuilds.append
    · exact .varint (by decide) rfl rfl
    · exact .varint (by decide) rfl rfl
    · exact .varint (by decide) rfl rfl
    · exact .fixed64 (by decide) rfl rfl
    · exact .fixed64 (by decide) rfl rfl
    · exact .varint (by decide) rfl rfl
    · exact .varint (by decide) rfl rfl
    · exact .varint (by decide) rfl rfl
    · exact .bytes (by decide) rfl rfl
    · exact .bytes (by decide) rfl rfl
    · exact .bytes (by decide) rfl rfl
    · exact .message (by decide) rfl (Marker.decodeColor_writeColor hexact _) rfl
    · refine .repeated (by decide) rfl (fun _ => rfl) (fun _ _ _ => rfl)
        (fun _ _ => decodeProperty_writeProperty) ?_
      simp only [mapKind_code, mapStatus_code, mapSeverity_code, varintOfBool_ne_zero,
        Int64.toInt64_toUInt64, List.nil_append]
  exact Rebuilds.decode hbuild hlen

/-! ## PlotMarkers -/

def serializePlotMarkers (markers : PlotMarkers) : Bytes :=
  markers.markers.flatMap fun marker => Writer.message 1 (writeMarker marker)

def plotMarkersFields : List (FieldDecl PlotMarkers) :=
  [.repeated 1 decodeMarker {} fun f ms => { ms with markers := f ms.markers }]

def plotMarkersLoop : FieldLoop PlotMarkers := .strict plotMarkersFields

/-- A field other than the markers is skipped, so its length is a failed skip. -/
def deserializePlotMarkers (data : Bytes) : Except String PlotMarkers :=
  batchFields "PlotMarkers"
    (fun number => if number = 1 then "bad nested message length" else "skip failed")
    (fun _ => "PlotMarker decode failed") plotMarkersFields {} data

theorem plotMarkersLoop_serializePlotMarkers (hexact : ColorExact) {markers : PlotMarkers}
    (hlen : (serializePlotMarkers markers).length < 2 ^ 64) :
    plotMarkersLoop.decode (serializePlotMarkers markers) {} = (true, markers) := by
  have hbuild : Rebuilds plotMarkersFields (serializePlotMarkers markers) {} markers :=
    .repeated (by decide) rfl (fun _ => rfl) (fun _ _ _ => rfl)
      (fun _ _ => decodeMarker_writeMarker hexact) rfl
  exact hbuild.decode hlen

end PlotJugglerSdk
