import ClientGen.Model.Build

/-!
# Cities and their forecasts

The service looks up cities and their forecasts. It binds members to every part of a request: path
labels, query parameters, headers and plain body members.
-/

namespace ClientGen.Builtin.Weather

def id (name : String) : ShapeId := ⟨"example.weather", name⟩

def shapes : List Shape := [
  ⟨id "CityCoordinates", .structure [
    .needed "latitude" .float,
    .needed "longitude" .float], []⟩,
  ⟨id "City", .structure [
    .needed "cityId" .string,
    .needed "name" .string,
    .needed "coordinates" (id "CityCoordinates"),
    .optional "population" .long [.boxed]], []⟩,
  ⟨id "CitySummary", .structure [
    .needed "cityId" .string,
    .needed "name" .string], []⟩,
  ⟨id "CitySummaries", .list (.needed "member" (id "CitySummary")), []⟩,
  ⟨id "Conditions", .enum [
    ⟨"SUNNY", "sunny"⟩, ⟨"CLOUDY", "cloudy"⟩, ⟨"RAIN", "rain"⟩, ⟨"SNOW", "snow"⟩], []⟩,
  ⟨id "Units", .enum [⟨"METRIC", "metric"⟩, ⟨"IMPERIAL", "imperial"⟩],
    [.documentation "Measurement system for temperatures."]⟩,
  ⟨id "Forecast", .structure [
    .optional "conditions" (id "Conditions"),
    .optional "high" .integer,
    .optional "low" .integer,
    .optional "chanceOfRain" .float [.jsonName "chance_of_rain"]], []⟩,
  ⟨id "GetCityInput", .structure [.needed "cityId" .string [.httpLabel]], []⟩,
  ⟨id "ListCitiesInput", .structure [
    .optional "nextToken" .string [.httpQuery "nextToken"],
    .optional "pageSize" .integer [.boxed, .httpQuery "pageSize"]], []⟩,
  ⟨id "ListCitiesOutput", .structure [
    .needed "items" (id "CitySummaries"),
    .optional "nextToken" .string], []⟩,
  ⟨id "GetForecastInput", .structure [
    .needed "cityId" .string [.httpLabel],
    .optional "units" (id "Units") [.httpQuery "units"]], []⟩,
  ⟨id "GetForecastOutput", .structure [
    .optional "forecast" (id "Forecast"),
    .optional "generatedAt" .timestamp], []⟩,
  ⟨id "CreateCityInput", .structure [
    .optional "clientToken" .string [.httpHeader "X-Client-Token"],
    .needed "name" .string,
    .needed "coordinates" (id "CityCoordinates"),
    .optional "population" .long [.boxed]], []⟩,
  ⟨id "CreateCityOutput", .structure [.needed "city" (id "City")], []⟩,
  ⟨id "DeleteCityInput", .structure [.needed "cityId" .string [.httpLabel]], []⟩]

def operations : List Operation := [
  { Operation.named (id "GetCity") with
    input := id "GetCityInput"
    output := id "City"
    http := some ⟨.get, "/cities/\x7bcityId\x7d"⟩
    documentation := "Returns one city." },
  { Operation.named (id "ListCities") with
    input := id "ListCitiesInput"
    output := id "ListCitiesOutput"
    http := some ⟨.get, "/cities"⟩
    documentation := "Lists cities a page at a time." },
  { Operation.named (id "GetForecast") with
    input := id "GetForecastInput"
    output := id "GetForecastOutput"
    http := some ⟨.get, "/cities/\x7bcityId\x7d/forecast"⟩ },
  { Operation.named (id "CreateCity") with
    input := id "CreateCityInput"
    output := id "CreateCityOutput"
    http := some ⟨.post, "/cities"⟩ },
  { Operation.named (id "DeleteCity") with
    input := id "DeleteCityInput"
    http := some ⟨.delete, "/cities/\x7bcityId\x7d"⟩ }]

def services : List Service := [
  { id := id "Weather"
    version := "2006-03-01"
    operations := operations.map (·.id)
    protocol := some .restJson
    documentation := "Provides weather forecasts for cities." }]

end ClientGen.Builtin.Weather
