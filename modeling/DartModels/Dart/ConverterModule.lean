import DartModels.Text.Parts

/-
The Dart module with the converters for loosely typed scalars.
-/

namespace DartModels.Dart.ConverterModule

open DartModels.Text

def fileName : String := "json_value_converter.dart"

def lines : List String :=
  ["import 'package:freezed_annotation/freezed_annotation.dart';",
    "",
    "class IntJsonConverter implements JsonConverter<int, Object?> \x7b",
    "  const IntJsonConverter();",
    "",
    "  @override",
    "  int fromJson(Object? json) \x7b",
    "    if (json == null) \x7b",
    "      return 0;",
    "    \x7d",
    "    if (json is int) \x7b",
    "      return json;",
    "    \x7d",
    "    if (json is double) \x7b",
    "      return json.toInt();",
    "    \x7d",
    "    if (json is String) \x7b",
    "      final int? parsed = int.tryParse(json);",
    "      if (parsed != null) \x7b",
    "        return parsed;",
    "      \x7d",
    "      final double? parsedDouble = double.tryParse(json);",
    "      if (parsedDouble != null) \x7b",
    "        return parsedDouble.toInt();",
    "      \x7d",
    "    \x7d",
    "    if (json is bool) \x7b",
    "      return json ? 1 : 0;",
    "    \x7d",
    "    throw FormatException('Invalid int value: $json');",
    "  \x7d",
    "",
    "  @override",
    "  Object toJson(int object) => object;",
    "\x7d",
    "",
    "class DoubleJsonConverter implements JsonConverter<double, Object?> \x7b",
    "  const DoubleJsonConverter();",
    "",
    "  @override",
    "  double fromJson(Object? json) \x7b",
    "    if (json == null) \x7b",
    "      return 0.0;",
    "    \x7d",
    "    if (json is double) \x7b",
    "      return json;",
    "    \x7d",
    "    if (json is int) \x7b",
    "      return json.toDouble();",
    "    \x7d",
    "    if (json is String) \x7b",
    "      final double? parsed = double.tryParse(json);",
    "      if (parsed != null) \x7b",
    "        return parsed;",
    "      \x7d",
    "    \x7d",
    "    if (json is bool) \x7b",
    "      return json ? 1.0 : 0.0;",
    "    \x7d",
    "    throw FormatException('Invalid double value: $json');",
    "  \x7d",
    "",
    "  @override",
    "  Object toJson(double object) => object;",
    "\x7d",
    "",
    "class BoolJsonConverter implements JsonConverter<bool, Object?> \x7b",
    "  const BoolJsonConverter();",
    "",
    "  @override",
    "  bool fromJson(Object? json) \x7b",
    "    if (json == null) \x7b",
    "      return false;",
    "    \x7d",
    "    if (json is bool) \x7b",
    "      return json;",
    "    \x7d",
    "    if (json is int) \x7b",
    "      return json == 1;",
    "    \x7d",
    "    if (json is double) \x7b",
    "      return json != 0;",
    "    \x7d",
    "    if (json is String) \x7b",
    "      final String normalized = json.toLowerCase().trim();",
    "      if (normalized == '1' || normalized == 'true') \x7b",
    "        return true;",
    "      \x7d",
    "      if (normalized == '0' || normalized == 'false') \x7b",
    "        return false;",
    "      \x7d",
    "    \x7d",
    "    throw FormatException('Invalid bool value: $json');",
    "  \x7d",
    "",
    "  @override",
    "  Object toJson(bool object) => object;",
    "\x7d",
    "",
    "class StringJsonConverter implements JsonConverter<String, Object?> \x7b",
    "  const StringJsonConverter();",
    "",
    "  @override",
    "  String fromJson(Object? json) \x7b",
    "    if (json == null) \x7b",
    "      return '';",
    "    \x7d",
    "    if (json is String) \x7b",
    "      return json;",
    "    \x7d",
    "    return json.toString();",
    "  \x7d",
    "",
    "  @override",
    "  Object toJson(String object) => object;",
    "\x7d"]

/-- The text of the module. -/
def content : String := unlines lines

end DartModels.Dart.ConverterModule
