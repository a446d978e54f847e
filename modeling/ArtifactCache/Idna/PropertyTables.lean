/-!
# Properties of characters

The Unicode properties that the validity of a label hangs on, for all code points from 0 on, in
runs: combining classes, general category mark, bidirectional classes and joining types.
-/

namespace ArtifactCache.Idna

/-- Canonical combining classes: `Z` is class zero, `K` has its class as second number. -/
def combiningClassText : String :=
  String.join
    ["ZlcKl,6eK1,6gK4,64K1,6gK1,60K5,64K2,5mK4,64K2,5mKb,64K5,1K4,64K8,6eK1,6oK1,6eK3,64K3,6e",
      "K2,64Z1K3,6eK4,64K1,6eK1,6gK2,64K1,6eK1,6hK2,6iK1,6hK2,6iK1,6hKd,6eZ7nK5,6eZ7dK1,64K4,6e",
      "K1,64K3,6eK1,66K1,64K6,6eK6,64K2,6eK1,64K2,6eK1,66K1,6cK1,6eK1,aK1,bK1,cK1,dK1,eK1,fK1,g",
      "K1,hK1,iK2,jK1,kK1,lK1,mZ1K1,nZ1K1,oK1,pZ1K1,6eK1,64Z1K1,iZ20K8,6eK1,uK1,vK1,wZ1cK1,rK1,s",
      "K1,tK1,uK1,vK1,wK1,xK1,yK2,6eK2,64K5,6eK1,64K2,6eK1,64ZgK1,zZ2tK7,6eZ2K4,6eK1,64K1,6eZ2",
      "K2,6eZ1K1,64K2,6eK1,64ZzK1,10ZuK1,6eK1,64K2,6eK1,64K2,6eK3,64K1,6eK2,64K1,6eK1,64K3,6e",
      "K1,64K1,6eK1,64K1,6eK1,64K1,6eK1,64K2,6eZ4gK7,6eK1,64K1,6eZ9K1,64ZoK4,6eZ1K9,6eZ1K3,6eZ1",
      "K5,6eZ17K3,64Z1oK1,6eK3,64K4,6eZ16K5,6eK5,64Ke,6eZ1K1,64K2,6eK1,64K2,6eK1,64K3,6eK3,64K1,r",
      "K1,sK1,tK3,6eK1,64K2,6eK2,64K5,6eZ1oK1,7ZgK1,9Z3K1,6eK1,64K2,6eZ2vK1,7ZgK1,9Z1cK1,6eZ1p",
      "K1,7ZgK1,9Z32K1,7ZgK1,9Z32K1,7ZgK1,9Z3jK1,9Z32K1,7ZgK1,9Z7K1,2cK1,2jZ2tK1,7ZgK1,9Z31K2,9Zg",
      "K1,9Z3gK1,9Z31K2,2vK1,9ZdK4,2zZ30K2,3aK1,9ZdK4,3eZ24K2,64ZrK1,64Z1K1,64Z1K1,60Z1jK1,3l",
      "K1,3mZ1K1,3oZ5K4,3mZ2K1,3mZ1K2,6eK1,9Z1K2,6eZ1qK1,64Z34K1,7Z1K2,9Z2aK1,64ZjzK3,6eZqcK2,9Zu",
      "K1,9Z4dK1,9ZaK1,6eZ5nK1,6cZ3zK1,66K1,6eK1,64Z63K1,6eK1,64Z1zK1,9ZkK8,6eZ2K1,64Z1cK5,6e",
      "K6,64K2,6eK1,64Z1K2,64K2,6eK2,64K5,6eK1,64K4,6eZ2tK1,7ZfK1,9Z12K1,6eK1,64K7,6eZ1iK2,9Z1m",
      "K1,7ZbK2,9Z1vK1,7Z48K3,6eZ1K1,1K5,64K2,6eK4,64K1,6eZ1K7,1Z4K1,64Z6K1,6eZ3K2,6eZ5iK2,6e",
      "K1,64K7,6eK1,64K2,6eK1,6iK1,5yK1,64K1,5mK11,6eK1,6gK2,6cK1,64K1,62K1,6eK1,6hK1,64K1,6e",
      "K1,64Zk0K2,6eK2,1K4,6eK3,1K2,6eZ4K1,6eZ3K2,1K1,6eK1,64K1,6eK2,1K4,64K1,6eZ2daK3,6eZ3xK1,9",
      "Z2oKw,6eZfeK1,62K1,6cK1,6gK1,66K2,68Z2xK2,8Zn9wK1,6eZ4Ka,6eZwK2,6eZ28K2,6eZ7oK1,9Z11K1,9",
      "Z47K1,9ZrKi,6eZ1lK3,64Z11K1,9Z2nK1,7ZcK1,9Z6nK1,6eZ1K2,6eK1,64Z2K2,6eZ5K2,6eZ1K1,6eZ1gK1,9",
      "Z6uK1,9Zfn4K1,qZldK7,6eK7,64K2,6eZr1K1,64Z6aK1,64Z45K5,6eZ1aqK1,64Z1K1,6eZ14K1,6eK1,1K1,64",
      "Z4K1,9Z4lK1,6eK1,64ZfxK4,6eZarK2,6eZ28K3,64Z1yK2,64K3,6eK1,64K1,6eK4,64Z1dK1,6eK1,64K1,6e",
      "K1,64Z5cK1,9Z15K1,9ZeK1,9Z1lK1,9K1,7Z1xK3,6eZ1cK2,9Z1qK1,7Z24K1,9Z9K1,7Z2yK1,9K1,7Z4yK1,7",
      "K1,9Z28K2,7ZgK1,9ZoK7,6eZ3K5,6eZ5pK1,9Z3K1,7ZnK1,6eZ2rK1,9K1,7Z6zK1,9K1,7Z3iK1,9Z3aK1,9",
      "K1,7Z37K1,9Z7hK1,9K1,7Z76K2,9Z4K1,7Z4cK1,9Z2bK1,9ZiK1,9Z29K1,9ZbpK1,9Z76K1,7Z1K2,9Z29K1,9",
      "ZbtK2,9Zey5K5,1Z1nK7,6eZxlK2,6Zf58K1,1Z43qK2,60K3,1Z3K1,6aK5,60Z8K8,64Z2K5,6eK2,64ZuK4,6e",
      "Z44K3,6eZ2pnK7,6eZ1Kh,6eZ2K7,6eZ1K2,6eZ1K5,6eZ2sK1,6eZ4gK7,6eZafK1,6eZ1pK4,6eZe4K2,6gK1,64",
      "K1,6eZrkK7,64Z31K6,6eK1,7Zl705Z0"]

/-- Marks: `M` is a mark, `N` is none. -/
def markText : String :=
  String.join
    ["NlcM34N7nM7N7bM19N1M1N1M2N1M2N1M1N20MbN1cMlNgM1N2tM7N2M6N2M2N1M4NzM1NuMrN2jMbN1mM9N9M1NoM4",
      "N1M9N1M3N1M5N17M3N1nM9N16MoN1MxN1iM3N1MiN1M7NaM2NtM3N1kM1N1M7N2M2N2M3N9M1NaM2NqM1N2M3N1kM1",
      "N1M5N4M2N2M3N3M1NuM2N3M1NbM3N1kM1N1M8N1M3N1M3NkM2NmM6N1M3N1kM1N1M7N2M2N2M3N7M3NaM2NuM1N1n",
      "M5N3M3N1M4N9M1N14M5N1jM1N1M7N1M3N1M4N7M2NbM2NtM3N1kM1N1M7N1M3N1M4N7M2NbM2NfM1NcM4N1jM2N1M7",
      "N1M3N1M4N9M1NaM2NtM3N1yM1N4M6N1M1N1M8NiM2N1pM1N2M7NcM8N2qM1N2M9NbM7N21M2NrM1N1M1N1M1N4M2",
      "N1dMkN1M2N5MbN1M10N9M1N2sMkNnM4N4M3N1M3N2M7N3M4NdMcN1M1NaM4NjjM3NqaM4NsM3NtM2NuM2N1sMwN9M1",
      "N19M3N1M1N39M2NyM1N3aMcN4McN63M5N1lMaN1MtN2M1N1cM1aN2McNkM5N1bMhN12M9NcM3NuMdN1kMeN1cMkN48",
      "M3N1MlN4M1N6M1N2M3N5iM1sNk0MxN2daM3N3xM1N2oMwNfeM6N2xM2Nn9wM4N1MaNwM2N28M2N7kM1N3M1N4M1Nn",
      "M5N4M1N2bM2N1eMiNqMiNdM1N12M8NpMdN18M4N1bMeN10M1N1vMeNcM1N8M2N19M3N1eM1N1M3N2M2N5M2N1M1N15",
      "M5N5M2N6kM8N1M2Nfn4M1NkhMgNgMgNr1M1N6aM1N45M5N1aeM3N1M2N5M4N14M3N4M1N4lM2NfxM4N1tM5N8tM2",
      "N25M6N1yMbN1dM4N3eM3N1hMfN15M1N2M2NaM4N19MbN7M1N1pM3N10MeNgM2N18M1NcM3N1cMeN8M4N1M2N2kMcN6",
      "M1N2M1N4dMcNlM4N1jM2N1M7N2M2N2M3N9M1NaM2N2M7N3M5N1vM9N1M1N2M1N1M4N1M5N1M1NeM2N2aMiNnM1N29",
      "MkN6jM7N2M9NrM2N2aMhN2yMdN2tMfN74MfN6tM6N1M2N2M4N1M1N1M2N3xM7N2M7N3M1NsMaN14M7N1M4N8M1N9Mb",
      "N1aMgN5iM8N5jM8N1M8N2aMmN1MeN3eM6N3M1N1M2N1M7N1M1N1uM5N1M2N1M5N9nM4N9M2N1M1N1cM7N3M5NnM1",
      "N44lM1N6MfN8ugMiN1xcM5N1nM7Nt4M1N1M1jN7M4N29M1NbM2Nf57M2N3mpM1aN2MnNf2M5N3M6N8M8N2M7NuM4",
      "N44M3N1izM1jN4M1eN8M1NeM1NmM5N1MfN11sM7N1MhN2M7N1M2N1M5N2sM1N4gM7NafM1N1pM4Ne4M4N72M2N6rM1",
      "N2M1N7M2N5M1Nd6M7N31M7NgzhxM6o"]

/-- Bidirectional classes: `L` left to right, `R` right to left, `A` Arabic letter, `N` Arabic
number, `E` European number, `S` European separator, `C` common separator, `T` European terminator,
`O` other neutral, `B` boundary neutral, `M` nonspacing mark, and `X` any other. -/
def bidiClassText : String :=
  String.join
    ["B9X5BeX5O2T3O5S1C1S1C2EaC1O6LqO6LqO4B6X1BqC1O1T4O4L1O2B1O2T2E2O1L1O3E1L1O5LnO1LvO1LchO2L7",
      "OeL2OeL5O9L1OhM34L4O2L8O1L5O2L1O1L32O1L3wM7L74O1L2O2T1R1M19R1M1R1M2R1M2R1M1R1kN6O2A1T2A1C1",
      "A1O2MbA1cMlNaT1N2A3M1A2tM7N1O1M6A2M2O1M4A2EaAnM1AuMrA2jMbAfR17M9R2O4R3M1RoM4R1M9R1M3R1M5",
      "R17M3R4A1cN2A6M8A16MoN1MwL1jM1L1M1L4M8L4M1L3M7LaM2LtM1L1mM1L4M4L8M1LkM2LeT2L7T1L2M1L2M2L1l",
      "M1L4M2L4M2L2M3L3M1LuM2L3M1LbM2L1lM1L4M5L1M2L4M1LkM2LdT1L8M6L1M1L1mM1L2M1L1M4L8M1L7M2LbM2Lu",
      "M1L1pM1LcM1L11O6T1O1L5M1L3M1L1jM1L1M3L5M3L1M4L7M2LbM2LkO7L2M1L1mM1LfM2LkM2LsM2L1lM2L4M4L8",
      "M1LkM2LtM1L20M1L7M3L1M1L2iM1L2M7L4T1L7M8L2qM1L2M9LbM7L21M2LrM1L1M1L1M1O4L1fMeL1M5L1M2L5Mb",
      "L1M10L9M1L2uM4L1M6L1M2L2M2LpM2L4M3LgM4LdM1L2M2L6M1LfM1LjjM3L1cOaL2uO1LhrX1LqO2L39M3LtM2Lu",
      "M2LuM2L1sM2L1M7L8M1L2MbL7T1L1M1LiOaL6ObM3B1M1L39M2LyM1L3aM3L4M2L9M1L6M3L4O1L3O2L48OyLnM2L2",
      "M1L1mM1L1M7L1M1L1M1L2M8L6MaL2M1L1cMvL1dM4L1cM1L1M5L1M1L5M1L14M9LcM2LwM4L2M2L1M3L1kM1L1M2L3",
      "M1L1M3L1mM8L2M2L48M3L1MdL1M7L4M1L6M1L3M2L5iM1sLcdO1L1O3LbO3LdO3LdO3LdO2L1XbB3L1R1OoX7C1T5",
      "OfC1OqX1B6X4B6E1L3E6S2O3L1EaS2O3LhT1cMxLfO2L1O4L1O2LaO1L1O3L5O6L1O1L1O1L1O1L4T1LbO2L4O5L5",
      "O4L2OgL15O3L4O3mS1T1O82L1xOqL1O41LpObLlO14EkL26OciL1O9fL74OhgL2OwL1O2xL6dO6L4M3L7O7L3jM1",
      "L2oMwO2mLyOqL1O2hLcO5yLqOcL4X1O4L3OpL9M4L2O1L5O2L5O3L2hM2O2L3O1L2iO1L5gO10L1lO2L1dOgLsO3",
      "L1eOfLcO4L4nO4L2rO2LvO1L534O1sLh3kO1jL92O3L2nM4O1MaO2LuM2L28M2LeOyL2uO1L3dM1L3M1L4M1LpM2L1",
      "O4M1LbT2L1mO4L24M2LqMiLdM1L12M8LpMbL1aM3L1cM1L2M4L2M2L13M1L1vM6L2M2L2M2LcM1L8M1L1bM1L1fM1",
      "L1M3L2M2L5M2L1M1L16M2L8M1L37O2L3dM1L2M1L4M1Lfn3R1M1RaS1R12AdqOiA3jO1BwAdO3MgOaL6MgOwC1O1C1",
      "L1O1C1O9T1O2S2O3L1O1T2O1L4A3zB1L1O2T3O5S1C1S1C2EaC1O6LqO6LqObL3eT2O3T2L1O7L1B9O5B2L75O1L1q",
      "O25L3OdL3O1L2kM1L6aM1ErL3eM5Lw5R7zO1R69M3R1M2R5M4R14M3R4M1R4lM2R2aO7RcgA10M4A8NaA6R80NvR18",
      "M2RjA1pM3R1cAmMbAvRiM4R3eL1M1L1iMfLbOkLaM1L2M2LaM3L1dM4L2M2L7M1L1pM3L10M5L1M8L1qM1LcM2L1g",
      "M9LaM4L2M1L2nM3L2M1L1M2L6M1L2M1L4dM1L3M8LlM2L1lM2L3M1L11M7L3M5L5fM8L2M3L1M1LnM1L2cM6L1M1L4",
      "M2L1M2L6mM4L6M2L1M2LrM2L2dM8L2M1L1M2LvOdL1qM1L1M1L2M6L1M1L2tM3L2M4L1M5L77M9L1M2L74M2L1M1L4",
      "M1L40M4L2M2L4M1LwM6L2M2L14M6L2M4L8M1L9M6L2M3L1aMdL1M2LbaM7L1M6L2cMmL2M7L1M2L1M2L3eM6L3M1L1",
      "M2L1M7L1M1L20M2L3M1L1M1L9nM2LbM2L1gM5L5M1L1M1L42O8T4OhL40eM1L6MfLasaM5L1nM7Lt4M1L1rM4L27O1",
      "L1M1Lf5kM2L1B4L3mkM1aL2MnLf4M3L9B8M8L2M7LuM4L1nO2LlO1uM3O1L56O2fLp0O1L1lO1L1lO1L1lO1L1lO1",
      "LaE1eLe8M1jL4M1eL8M1LeM1LmM5L1MfL11sM7L1MhL2M7L1M2L1M5L2sM1L4gM7LafM1L1pM4LfT1LdoM4LlsR5s",
      "M7R31M7RmdA28R1sA28R4wA6oO2AeR74O18L4O2sLcOfL2OfL1OfL1O11LaEbO5LvO1L1mO6L1pO1L4yO6L4aOrcL4",
      "OhL3OdL3O3bL4O2nL6OcL4O1LfOcL4O1kL8OaL6O14L8OuL2O2L26O9gLcOeL2OdL3O9L7O1aL1O7L8OeL4O9L7O9",
      "L7O43L1O1jL11EaLskB2L1ekeB2L1ekeB2L1ekeB2L1ekeB2L1ekeB2L1ekeB2L1ekeB2L1ekeB2L1ekeB2L1ekeB2",
      "L1ekeB2L1ekeB76M6oB2s0L1bemB2L1ekeB2L1ekeB2L0"]

/-- Joining types: `D` dual, `L` left, `R` right, `T` transparent, `C` causing and `U` none. -/
def joiningTypeText : String :=
  String.join
    ["U4tT1UgiT34U7nT7U7bT19U1T1U1T2U1T2U1T1U20TbU1T1U3D1U1R4D1R1D1R1D5R4DdC1D7R1D2TlUeD2T1R3U1",
      "R3DgRiD12R1D2R9D1R1D1R1D2R2U1R1T7U2T6U2T2U1T4R2UaD3U2D1UfT1R1T1D3R5D4R1D9R1D1R1D1R1D2R1Tr",
      "U2R1DbR3DfR2D4R1D1R2D3R2D6U12TbUpDxT9U6C1U2T1UoT4U1T9U1T3U1T5UiR1D5R2D1R1DaR1D1R3T3U4D1U1",
      "D4U1R1D1R2U5RjC3D1U2D5R1U9T8DaR3U1R1D2R2D6R1DfU1ToU1TwU1jT1U1T1U4T8U4T1U3T7UaT2UtT1U1mT1U4",
      "T4U8T1UkT2UqT1U2T2U1lT1U4T2U4T2U2T3U3T1UuT2U3T1UbT2U1lT1U4T5U1T2U4T1UkT2UmT6U1T1U1mT1U2T1",
      "U1T4U8T1U7T2UbT2UuT1U1pT1UcT1U1eT1U3T1U1jT1U1T3U5T3U1T4U7T2UbT2UtT1U1mT1U2T1U6T1U5T2UkT2Us",
      "T2U1lT2U4T4U8T1UkT2UtT1U20T1U7T3U1T1U2iT1U2T7UcT8U2qT1U2T9UbT7U21T2UrT1U1T1U1T1U1jTeU1T5U1",
      "T2U5TbU1T10U9T1U2uT4U1T6U1T2U2T2UpT2U4T3UgT4UdT1U2T2U6T1UfT1UjjT3UqaT3UtT2UuT2UuT2U1sT2U1",
      "T7U8T1U2TbU9T1U15D1U2C1T3U1T1UgD2hUcT2DyT1D1U39T3U4T2U9T1U6T3U63T2U2T1U1mT1U1T7U1T1U1T1U2",
      "T8U6TaU2T1U1cTvU1dT4U1cT1U1T5U1T1U5T1U14T9UcT2UwT4U2T2U1T3U1kT1U1T2U3T1U1T3U1mT8U2T2U48T3",
      "U1TdU1T7U4T1U6T1U3T2U5iT1sUejT1U1C1T2UqT5U1dT5U5T6U2oTxU2daT3U3xT1U2oTwUfeT4U2zT2Un9wT4U1",
      "TaUwT2U28T2U7kT1U3T1U4T1UpT2U5T1UjD1eL1U29T2UqTiUdT1U12T8UpTbU1aT3U1cT1U2T4U2T2U13T1U1vT6",
      "U2T2U2T2UcT1U8T1U1bT1U1fT1U1T3U2T2U5T2U1T1U16T2U8T1U6mT1U2T1U4T1Ufn4T1UkhTgUgTgU5rT1U6xT3",
      "Ue9T1U6aT1U45T5U1aeT3U1T2U5T4U14T3U4T1U3kD5R1U1R1U1R2U2L1R5D4L1D5R1D3R1U2R1T2U4D4R1U40D1R1",
      "D1R3D3R1D2R1D1R2D1R1UnR4D2U9dL1DxR1D1T4UarT2U28T3U1cD3R1DhU1TbD3R1UrD4R2DcT4U16D1U1D2R3U1",
      "D1R2D2R1D2U1D1R2D1U4R1D1L1U1hT1U1iTfU15T1U2T2UaT3U1dT4U2T2U7T1U1pT3U10T5U1T8U1qT1UcT2U1gT9",
      "UaT4U2T1U2nT3U2T1U1T2U6T1U2T1U4dT1U3T8UlT2U1lT2U3T1U11T7U3T5U5fT8U2T3U1T1UnT1U2cT6U1T1U4T2",
      "U1T2U6mT4U6T2U1T2UrT2U2dT8U2T1U1T2U2yT1U1T1U2T6U1T1U2tT3U2T4U1T5U77T9U1T2U74T2U1T1U4T1U40",
      "T4U2T2U4T1UwTaU14T6U2T4U8T1U9T6U2T3U1aTdU1T2UbaT7U1T6U1T1U2aTmU2T7U1T2U1T2U3eT6U3T1U1T2U1",
      "T7U1T1U20T2U3T1U1T1U9nT2UbT2U1gT5U5T1U1T1U44tThU6TfUasaT5U1nT7Ut4T1U1rT4U29T1Uf5kT2U1T4",
      "U3mkT1aU2TnUf4T3U9TgU2T7UuT4U44T3U1izT1jU4T1eU8T1UeT1UmT5U1TfU11sT7U1ThU2T7U1T2U1T5U2sT1",
      "U4gT7UafT1U1pT4Ue4T4UrkT7U15D1wT8UgzatT1UuT2oU3kT6oU47bk"]

end ArtifactCache.Idna
